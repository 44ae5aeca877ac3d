import ShellPipeline.Script.Source

/-!
# Reading words

A word ends at a blank or an operator that is not quoted. Quotes, parameters and expressions in it
open layers, each with characters that mean something of their own, and close them again. The text
of a document is read as one word that ends before a certain line.
-/

namespace ShellPipeline

namespace Script

/-- What characters mean. -/
inductive Quoting where
  | none
  | double
  | single
  | arithmetic
deriving DecidableEq, Repr

/-- A layer of a word. -/
structure Layer where
  quoting : Quoting := .none
  /-- Whether it stands between double quotes as far as backslashes are concerned. -/
  isDouble : Bool := false
  /-- Whether double quotes were opened within a parameter. -/
  innerQuotes : Bool := false
  /-- Whether it was opened for a parameter. -/
  forParameter : Bool := false
  /-- The number of parameters that were opened in it. -/
  parameters : Nat := 0
  /-- The number of those that were opened between double quotes. -/
  doubleParameters : Nat := 0
  /-- The number of parentheses that were opened in it. -/
  parentheses : Nat := 0
deriving Repr

/-- What is open around the parts of a word. -/
inductive Enclosure where
  | parameter (name : String) (form : Form) (empty : Bool)
  | arithmetic

/-- The line that ends a document. -/
structure DocumentEnd where
  line : List Char
  /-- Whether tabulators before it and before other lines are dropped. -/
  stripsTabs : Bool

/-- A word that is being read. -/
structure Spelling where
  /-- The parts of what is innermost, in reverse. -/
  parts : List Part := []
  /-- What is open, the innermost first, each with the parts before it. -/
  enclosing : List (Enclosure × List Part) := []
  layer : Layer := {}
  outer : List Layer := []
  quoted : Bool := false
  /-- The end of the document that is read. -/
  document : Option DocumentEnd := .none
  /-- Whether parameters are left as they are. -/
  literal : Bool := false

namespace Spelling

def add (w : Spelling) (p : Part) : Spelling :=
  { w with parts := p :: w.parts }

def addChar (w : Spelling) (c : Char) (quoted : Bool) : Spelling :=
  w.add (.char c quoted)

def addMark (w : Spelling) : Spelling :=
  if w.document.isSome then w else w.add .mark

def enclose (w : Spelling) (e : Enclosure) : Spelling :=
  { w with parts := [], enclosing := (e, w.parts) :: w.enclosing }

def close (w : Spelling) : Spelling :=
  match w.enclosing with
  | [] => w
  | (e, before) :: enclosing =>
    let inside := w.parts.reverse
    let part := match e with
      | .parameter name form empty => Part.parameter name form empty inside
      | .arithmetic => .arithmetic inside
    { w with parts := part :: before, enclosing }

def push (w : Spelling) (layer : Layer) : Spelling :=
  { w with layer, outer := w.layer :: w.outer }

def pop (w : Spelling) : Spelling :=
  match w.outer with
  | [] => w
  | layer :: outer => { w with layer, outer }

def onLayer (w : Spelling) (f : Layer → Layer) : Spelling :=
  { w with layer := f w.layer }

def toggleQuotes (w : Spelling) : Spelling :=
  (w.onLayer fun l =>
    if l.parameters = 0 then l else { l with innerQuotes := !l.innerQuotes }).addMark

def endQuote (w : Spelling) (c : Char) : Spelling :=
  if w.document.isSome && w.layer.parameters = 0 then w.addChar c false
  else
    let w := w.onLayer fun l =>
      if l.doubleParameters = 0 then { l with quoting := .none, isDouble := false } else l
    let w := { w with quoted := true }
    if c = '"' then w.toggleQuotes else w.addMark

def endBrace (w : Spelling) : Spelling :=
  let l := w.layer
  if l.innerQuotes || l.parameters = 0 then w.addChar '\x7d' false
  else
    let w := w.onLayer fun l => { l with parameters := l.parameters - 1 }
    if l.parameters = 1 && l.forParameter then w.pop.close
    else (w.onLayer fun l => { l with doubleParameters := l.doubleParameters - 1 }).close

/-- Opens a parameter. Its word has a layer of its own if characters mean something else in it. -/
def openParameter (w : Spelling) (name : String) (form : Form) (empty : Bool) : Spelling :=
  let trims := match form with
    | .trimStart _ | .trimEnd _ => true
    | _ => false
  let quoting := if trims then .none
    else if w.layer.quoting = .arithmetic then .double
    else w.layer.quoting
  let w := if quoting != w.layer.quoting || w.layer.innerQuotes then
      w.push { quoting, isDouble := quoting != .none, forParameter := true }
    else w
  let w := w.onLayer fun l =>
    { l with
      parameters := l.parameters + 1
      doubleParameters := l.doubleParameters + (if l.isDouble then 1 else 0) }
  w.enclose (.parameter name form empty)

def openArithmetic (w : Spelling) : Spelling :=
  (w.push { quoting := .arithmetic, isDouble := true }).enclose .arithmetic

/-- Whether a backslash before a character between double quotes stands for itself. -/
def keepsBackslash (w : Spelling) (c : Char) : Bool :=
  w.layer.isDouble && c != '\\' && c != '\x60' && c != '$'
    && (c != '"' || (w.document.isSome && w.layer.parameters = 0))
    && (c != '\x7d' || w.layer.parameters = 0)

/-- The characters that are quoted between quotes, since they mean something in patterns and
elsewhere. -/
def active : List Char :=
  ['!', '*', '?', '[', ']', '=', '~', ':', '/', '-']

def endings : List Char :=
  ['<', '>', '(', ')', ';', '&', '|', ' ', '\t']

def fault? (w : Spelling) : Option String :=
  if w.layer.quoting = .arithmetic then some "Missing '))'"
  else if w.layer.quoting != .none && w.document.isNone then some "Unterminated quoted string"
  else if w.layer.parameters != 0 then some "Missing '\x7d'"
  else .none

end Spelling

/-- The readers of lists of commands in words. -/
structure Nested where
  /-- Reads a list that may be empty. -/
  list : Reader (Option Command)
  close : Reader Unit

namespace Reader

/-- Takes characters as long as they are of a kind, at most so many. -/
def takeWhileFor (holds : Char → Bool) : Nat → List Char → Reader (List Char)
  | 0, done => pure done.reverse
  | n + 1, done => do
    match ← peekJoined with
    | some c =>
      if holds c then
        skip
        takeWhileFor holds n (c :: done)
      else return done.reverse
    | none => return done.reverse

/-- Takes characters as long as they are of a kind. -/
def takeWhile (holds : Char → Bool) : Reader (List Char) :=
  takeWhileFor holds roundLimit []

/-- Reads the form of a parameter between braces after its name. -/
def readForm : Reader (Form × Bool) := do
  let empty ← skipIf ':'
  let c ← peekJoined
  skip
  match c with
  | some '\x7d' => return (.value, empty)
  | some '-' => return (.orWord, empty)
  | some '+' => return (.ifValue, empty)
  | some '?' => return (.orComplain, empty)
  | some '=' => return (.orAssign, empty)
  | some '#' =>
    if empty then return (.unknown, empty)
    return (.trimStart (← skipIf '#'), empty)
  | some '%' =>
    if empty then return (.unknown, empty)
    return (.trimEnd (← skipIf '%'), empty)
  | _ => return (.unknown, empty)

/-- Reads the name of a parameter that is a name or a number. -/
def readName (wide : Bool) : Reader (List Char) := do
  match ← peekJoined with
  | some c =>
    if isNameStart c then takeWhile isNameChar
    else if c.isDigit then
      if wide then takeWhile Char.isDigit
      else
        skip
        return [c]
    else return []
  | none => return []

def openForm (w : Spelling) (name : String) (form : Form) (empty : Bool) : Spelling :=
  if form = .value && !empty then w.add (.parameter name .value false [])
  else w.openParameter name form empty

def readBraced (w : Spelling) : Reader Spelling := do
  let name ← readName true
  if !name.isEmpty then
    let (form, empty) ← readForm
    return openForm w (String.ofList name) form empty
  match ← peekJoined with
  | none => return w.openParameter "" .unknown false
  | some '\x7d' => return w.openParameter "" .unknown false
  | some '#' =>
    skip
    match ← peekJoined with
    | none => return w.openParameter "" .unknown false
    | some c =>
      if isNameChar c then
        let name ← readName true
        let form := if (← peekJoined) = some '\x7d' then Form.length else .unknown
        return w.openParameter (String.ofList name) form false
      else if c = '\x7d' then
        skip
        return openForm w "#" .value false
      else
        let next := (← get).source.rest.drop 1
        if next.isEmpty && !(← get).source.ended then throw .incomplete
        if next.head? = some '\x7d' then
          skip
          if specialParameters.contains c then return w.openParameter c.toString .length false
          return w.openParameter "" .unknown false
        else
          let (form, empty) ← readForm
          return openForm w "#" form empty
  | some c =>
    skip
    if specialParameters.contains c then
      let (form, empty) ← readForm
      return openForm w c.toString form empty
    else return w.openParameter "" .unknown false

def readBackquoted (isDouble : Bool) : Nat → List Char → Reader (List Char)
  | 0, done => pure done.reverse
  | n + 1, done => do
    let c ← peekJoined
    skip
    match c with
    | none => fault "EOF in backquote substitution"
    | some '\x60' => return done.reverse
    | some '\\' =>
      match ← peek with
      | none => readBackquoted isDouble n ('\\' :: done)
      | some d =>
        skip
        if d = '\n' then countLine
        if d = '\\' || d = '\x60' || d = '$' || (isDouble && d = '"') then
          readBackquoted isDouble n (d :: done)
        else readBackquoted isDouble n (d :: '\\' :: done)
    | some '\n' =>
      countLine
      readBackquoted isDouble n ('\n' :: done)
    | some c => readBackquoted isDouble n (c :: done)

def readDollar (sub : Nested) (w : Spelling) : Reader Spelling := do
  match ← peekJoined with
  | some '(' =>
    if w.literal then return w.addChar '$' false
    skip
    if ← skipIf '(' then return w.openArithmetic
    let command ← withOwnDocuments sub.list
    sub.close
    return w.add (.output command)
  | some '\x7b' =>
    if w.literal then return w.addChar '$' false
    skip
    readBraced w
  | some c =>
    if w.literal then return w.addChar '$' false
    let name ← readName false
    if !name.isEmpty then return w.add (.parameter (String.ofList name) .value false [])
    if specialParameters.contains c then
      skip
      return w.add (.parameter c.toString .value false [])
    return w.addChar '$' false
  | none => return w.addChar '$' false

def readBackslash (w : Spelling) : Reader Spelling := do
  match ← peek with
  | none => return w.addChar '\\' true
  | some c =>
    skip
    if c = '\n' then countLine
    let w := if w.keepsBackslash c then w.addChar '\\' true else w
    return { w.addChar c true with quoted := true }

def readParenthesis (w : Spelling) : Reader Spelling := do
  if w.layer.parentheses != 0 then
    return (w.addChar ')' false).onLayer fun l => { l with parentheses := l.parentheses - 1 }
  if ← skipIf ')' then return w.close.pop
  return w.addChar ')' false

/-- Reads a character outside of single quotes. Answers whether the word goes on. -/
def spellChar (sub : Nested) (w : Spelling) (c : Char) : Reader (Spelling × Bool) := do
  let quoting := w.layer.quoting
  match c with
  | '\\' =>
    skip
    return (← readBackslash w, true)
  | '$' =>
    skip
    return (← readDollar sub w, true)
  | '\x60' =>
    skip
    if w.literal then return ({ w.addChar c false with quoted := true }, true)
    let text ← readBackquoted w.layer.isDouble roundLimit []
    let command ← within text (withOwnDocuments sub.list)
    return (w.add (.output command), true)
  | '\x7d' =>
    skip
    return (w.endBrace, true)
  | '"' =>
    if quoting = .arithmetic then
      skip
      return (w.addChar c false, true)
    skip
    if quoting = .double then return (w.endQuote c, true)
    return ((w.onLayer fun l => { l with quoting := .double, isDouble := true }).toggleQuotes,
      true)
  | '\'' =>
    skip
    if quoting != .none then return (w.addChar c false, true)
    return ((w.onLayer fun l => { l with quoting := .single }).addMark, true)
  | '(' =>
    if quoting = .arithmetic then
      skip
      return ((w.addChar c false).onLayer fun l => { l with parentheses := l.parentheses + 1 },
        true)
    if quoting = .none && w.layer.parameters = 0 then return (w, false)
    skip
    return (w.addChar c false, true)
  | ')' =>
    if quoting = .arithmetic then
      skip
      return (← readParenthesis w, true)
    if quoting = .none && w.layer.parameters = 0 then return (w, false)
    skip
    return (w.addChar c false, true)
  | c =>
    if quoting = .none && w.layer.parameters = 0 && Spelling.endings.contains c then
      return (w, false)
    skip
    return (w.addChar c (quoting = .double && Spelling.active.contains c), true)

/-- Whether a document ends here. Takes the line that ends it, and tabulators that are dropped. -/
def endsDocument (e : DocumentEnd) : Reader Bool := do
  if e.stripsTabs then
    let _ ← takeWhile (· = '\t')
  let r ← get
  let s := r.source
  let after := s.rest.drop e.line.length
  if e.line.isPrefixOf s.rest then
    match after with
    | [] =>
      if !s.ended then throw .incomplete
      modify fun r => { r with source := { s with rest := [] } }
      return true
    | '\n' :: rest =>
      modify fun r =>
        { r with source := { s with rest, line := s.line + 1, taken := s.taken + e.line.length + 1 } }
      return true
    | _ => return false
  else
    if !s.ended && s.rest.isPrefixOf e.line then throw .incomplete
    return false

/-- Reads a character of a word. Answers whether the word goes on. -/
def spell (sub : Nested) (w : Spelling) : Reader (Spelling × Bool) := do
  let c ← if w.layer.quoting = .single then peek else peekJoined
  match c with
  | none => return (w, false)
  | some '\n' =>
    if w.layer.quoting = .none && w.layer.parameters = 0 then return (w, false)
    skip
    countLine
    let w := w.addChar '\n' false
    match w.document with
    | some e => return (w, !(← endsDocument e))
    | none => return (w, true)
  | some c =>
    if w.layer.quoting = .single then
      skip
      if c = '\'' && w.document.isNone then return (w.endQuote c, true)
      return (w.addChar c (c = '\\' || Spelling.active.contains c), true)
    spellChar sub w c

/-- Reads a word or a document of at most so many characters. -/
def spellFor (sub : Nested) : Nat → Spelling → Reader Spelling
  | 0, w => pure w
  | n + 1, w => do
    let (w, more) ← spell sub w
    if more then spellFor sub n w else return w

def spellAll (sub : Nested) (w : Spelling) : Reader Spelling := do
  let w ← spellFor sub roundLimit w
  match w.fault? with
  | some message => fault message
  | none => return w

def readDocument (sub : Nested) (a : Announced) : Reader Unit := do
  let e : DocumentEnd := ⟨a.ending, a.stripsTabs⟩
  let layer : Layer :=
    if a.expands then { quoting := .double, isDouble := true } else { quoting := .single }
  let w : Spelling := { document := some e, layer }
  let w ← if ← endsDocument e then pure w else spellAll sub w
  modify fun r => { r with documents := (a.number, w.parts.reverse) :: r.documents }

def readDocuments (sub : Nested) : Reader Unit := do
  let announced := (← get).announced
  modify fun r => { r with announced := [] }
  for a in announced do
    readDocument sub a

end Reader

end Script

end ShellPipeline
