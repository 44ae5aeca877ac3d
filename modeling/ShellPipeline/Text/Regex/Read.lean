import ShellPipeline.Text.Regex.Basic

/-!
# Reading regular expressions

There are two ways to write regular expressions. In one of them braces, parentheses and the signs
for choices and repetitions mean something after a backslash, in the other one without it.
-/

namespace ShellPipeline

/-- How a regular expression is written and what it means. -/
structure RegexStyle where
  /-- Whether operators are written without a backslash. -/
  extended : Bool := false
  /-- Whether it has only the most common operators. -/
  basicOnly : Bool := false
  /-- Whether upper and lower case are the same. -/
  ignoresCase : Bool := false
  /-- Whether it is about the lines of a text. -/
  byLines : Bool := false
deriving DecidableEq, Repr

/-- What is wrong with a regular expression. -/
inductive RegexFault where
  /-- A range or a bracket is incomplete in a way that nothing can be made of. -/
  | incomplete
  /-- A character that belongs to no order is named. -/
  | collation
  | className
  | backslash
  /-- A group is taken again that does not exist or has not ended. -/
  | reference
  | openBracket
  | openGroup
  /-- A number of times is not closed. -/
  | openCount
  | count
  | range
  /-- A number of times is too large. -/
  | size
  | repetition
  /-- A group is closed that was not opened. -/
  | closedGroup
deriving DecidableEq, Repr

def RegexFault.message : RegexFault → String
  | incomplete => "Invalid regular expression"
  | collation => "Invalid collation character"
  | className => "Invalid character class name"
  | backslash => "Trailing backslash"
  | reference => "Invalid back reference"
  | openBracket => "Unmatched [, [^, [:, [., or [="
  | openGroup => "Unmatched ( or \\("
  | openCount => "Unmatched \\\x7b"
  | count => "Invalid content of \\\x7b\\\x7d"
  | range => "Invalid range end"
  | size => "Regular expression too big"
  | repetition => "Invalid preceding regular expression"
  | closedGroup => "Unmatched ) or \\)"

/-- A sign in a regular expression. -/
inductive RegexSign where
  | char (c : Char)
  | any
  | bracket
  /-- The members of a class, or all other characters. -/
  | member (holds : Char → Bool)
  | again (group : Nat)
  | enter
  | leave
  | choice
  /-- A repetition, with the character that it is written with. -/
  | times (c : Char) (least : Nat) (most : Option Nat)
  | count
  | countEnd
  | place (a : Anchor)
  | backslash

/-- An element between brackets, of which names are still to be looked up. -/
inductive BracketElement where
  | char (c : Char)
  | symbol (name : List Char)
  /-- The name of a character and of those that count as equal to it. -/
  | equals (name : List Char)
  | named (name : List Char)
deriving DecidableEq, Repr

/-- A part of what stands between brackets. -/
inductive BracketPart where
  | char (c : Char)
  | range (a b : Char)
  | having (holds : Char → Bool)

/-- Whether a character belongs to a part of what stands between brackets. -/
def BracketPart.holds (c : Char) : BracketPart → Bool
  | char d => c = d
  | range a b => a ≤ c && c ≤ b
  | having holds => holds c

def BracketPart.plain? : BracketPart → Option Char
  | char c => some c
  | _ => none

/-- A regular expression that was read. -/
structure RegexReading where
  regex : Regex
  groups : Nat
  /-- Whether the name of a class seems to stand between single brackets. -/
  hasLoneClass : Bool

namespace RegexStyle

def fold (style : RegexStyle) (c : Char) : Char :=
  if style.ignoresCase then c.toUpper else c

/-- The characters that a sign stands for, which are no line feeds if lines matter. -/
def charsBut (style : RegexStyle) (holds : Char → Bool) : CharSet :=
  CharSet.ofProperty fun c => holds c && !(style.byLines && c = '\n')

/-- The signs that are characters after a backslash in any style. -/
def specialSign (c : Char) : Option RegexSign :=
  match c with
  | '<' => some (.place .wordStart)
  | '>' => some (.place .wordEnd)
  | 'b' => some (.place .wordEdge)
  | 'B' => some (.place .noWordEdge)
  | '\x60' => some (.place .textStart)
  | '\'' => some (.place .textEnd)
  | 'w' => some (.member isWordChar)
  | 'W' => some (.member fun c => !isWordChar c)
  | 's' => some (.member fun c => c = ' ' || ('\t' ≤ c && c ≤ '\r'))
  | 'S' => some (.member fun c => !(c = ' ' || ('\t' ≤ c && c ≤ '\r')))
  | _ => none

def operator (c : Char) : Option RegexSign :=
  match c with
  | '(' => some .enter
  | ')' => some .leave
  | '\x7b' => some .count
  | '\x7d' => some .countEnd
  | '|' => some .choice
  | '+' => some (.times c 1 none)
  | '?' => some (.times c 0 (some 1))
  | _ => none

def isCommon (c : Char) : Bool :=
  c = '(' || c = ')' || c = '\x7b' || c = '\x7d'

def escaped (style : RegexStyle) (c : Char) : RegexSign :=
  if '1' ≤ c && c ≤ '9' then .again (c.toNat - '0'.toNat)
  else if !style.extended && (isCommon c || !style.basicOnly) && (operator c).isSome then
    (operator c).getD (.char c)
  else if style.basicOnly then .char c
  else (specialSign c).getD (.char c)

/-- Whether a group or a choice ends before some characters. -/
def endsHere (style : RegexStyle) : List Char → Bool
  | [] => true
  | c :: rest =>
    if style.extended then c = ')' || c = '|'
    else c = '\\' && match rest with
      | d :: _ => d = ')' || (d = '|' && !style.basicOnly)
      | [] => false

/-- Reads a sign. It depends on whether a place can stand here. -/
def readSign (style : RegexStyle) (placeHere : Bool) : List Char → Option (RegexSign × List Char)
  | [] => none
  | ['\\'] => some (.backslash, [])
  | '\\' :: c :: rest => some (style.escaped c, rest)
  | '*' :: rest => some (.times '*' 0 none, rest)
  | '.' :: rest => some (.any, rest)
  | '[' :: rest => some (.bracket, rest)
  | '^' :: rest =>
    some (if style.extended || placeHere then .place .lineStart else .char '^', rest)
  | '$' :: rest =>
    some (if style.extended || style.endsHere rest then .place .lineEnd else .char '$', rest)
  | c :: rest =>
    match if style.extended then operator c else none with
    | some sign => some (sign, rest)
    | none => some (.char (style.fold c), rest)

/-- The signs between brackets. -/
inductive BracketSign where
  /-- A bracket in the bracket, with the character that closes it. -/
  | opening (delimiter : Char)
  | hyphen
  | closing
  | char (c : Char)

def bracketSign (style : RegexStyle) : List Char → Option (BracketSign × List Char)
  | [] => none
  | '[' :: c :: rest =>
    if c = '.' || c = '=' || c = ':' then some (.opening c, rest) else some (.char '[', c :: rest)
  | '-' :: rest => some (.hyphen, rest)
  | ']' :: rest => some (.closing, rest)
  | c :: rest => some (.char (style.fold c), rest)

def longestName : Nat := 32

/-- Reads a name up to the character that ends it and a bracket. -/
def readName (delimiter : Char) : Nat → List Char → Except RegexFault (List Char × List Char)
  | 0, _ => .error .openBracket
  | n + 1, c :: d :: rest =>
    if c = delimiter && d = ']' then .ok ([], rest)
    else (readName delimiter n (d :: rest)).map fun (name, rest) => (c :: name, rest)
  | _, _ => .error .openBracket

def classNamed (style : RegexStyle) (name : String) : Except RegexFault (Char → Bool) :=
  let name := if style.ignoresCase && (name = "upper" || name = "lower") then "alpha" else name
  match charClasses.lookup name with
  | some holds => .ok holds
  | none => .error .className

/-- Reads an element between brackets, of which a sign has been read. -/
def readElement (style : RegexStyle) (hyphenHere : Bool) (sign : BracketSign)
    (rest : List Char) : Except RegexFault (BracketElement × List Char) := do
  match sign with
  | .opening delimiter =>
    let (name, rest) ← readName delimiter longestName rest
    return (match delimiter with
      | ':' => .named name
      | '=' => .equals (name.map style.fold)
      | _ => .symbol (name.map style.fold), rest)
  | .hyphen =>
    if !hyphenHere && rest.head? != some ']' then throw .range
    return (.char '-', rest)
  | .closing => return (.char ']', rest)
  | .char c => return (.char c, rest)

def beginsRange : BracketElement → Bool
  | .char _ | .symbol _ => true
  | _ => false

def charNamed : List Char → Except RegexFault Char
  | [c] => .ok c
  | _ => .error .collation

def elementPart (style : RegexStyle) : BracketElement → Except RegexFault BracketPart
  | .char c => .ok (.char c)
  | .symbol name | .equals name => (charNamed name).map fun c => .range c c
  | .named name => (style.classNamed (String.ofList name)).map .having

def rangeEnd : BracketElement → Except RegexFault Char
  | .char c => .ok c
  | .symbol name => charNamed name
  | _ => .error .range

def rangePart (a b : BracketElement) : Except RegexFault BracketPart := do
  if !beginsRange b then throw .range
  let a ← rangeEnd a
  let b ← rangeEnd b
  if b < a then throw .range
  return .range a b

/-- Reads what stands between brackets, of which there are at most so many characters, after parts
that were read in reverse. A sign has been read. -/
def readParts (style : RegexStyle) : Nat → List BracketPart → BracketSign → List Char →
    Except RegexFault (List BracketPart × List Char)
  | 0, _, _, _ => .error .openBracket
  | n + 1, parts, sign, rest => do
    let (a, rest) ← style.readElement parts.isEmpty sign rest
    let some (sign, after) := style.bracketSign rest
      | if !beginsRange a then
          let _ ← style.elementPart a
        throw .openBracket
    let goOn (part : BracketPart) (sign : BracketSign) (rest : List Char) :
        Except RegexFault (List BracketPart × List Char) :=
      match sign with
      | .closing => .ok ((part :: parts).reverse, rest)
      | sign => style.readParts n (part :: parts) sign rest
    match sign, beginsRange a with
    | .hyphen, true =>
      match style.bracketSign after with
      | none => throw .openBracket
      | some (.closing, _) =>
        let part ← style.elementPart a
        goOn part (.char '-') after
      | some (last, rest) =>
        let (b, rest) ← style.readElement true last rest
        let part ← rangePart a b
        match style.bracketSign rest with
        | none => throw .openBracket
        | some (sign, rest) => goOn part sign rest
    | sign, _ =>
      let part ← style.elementPart a
      goOn part sign after

/-- Whether parts look like the name of a class that stands between single brackets. -/
def isLoneClass (parts : List BracketPart) : Bool :=
  match parts.mapM BracketPart.plain? with
  | some cs => cs.head? = some ':' && cs.getLast? = some ':' && cs.any (· != ':')
  | none => false

/-- Reads what stands between brackets. Answers also whether it looks like the name of a class. -/
def readBracket (style : RegexStyle) (cs : List Char) :
    Except RegexFault ((CharSet × Bool) × List Char) := do
  let (negated, cs) := match cs with
    | '^' :: rest => (true, rest)
    | cs => (false, cs)
  match style.bracketSign cs with
  | none => throw .incomplete
  | some (sign, rest) =>
    let (parts, rest) ← style.readParts (cs.length + 1) [] sign rest
    let holds (c : Char) : Bool := parts.any (BracketPart.holds c)
    let set := if negated then style.charsBut fun c => !holds c else CharSet.ofProperty holds
    return ((set, isLoneClass parts), rest)

/-- What was read of a number of times. -/
inductive CountValue where
  | none
  | bad
  | number (n : Nat)

def largestCount : Nat := 32767

/-- Reads a number up to a comma or to the end of a number of times, which is answered as well.
There are at most so many signs. -/
def readNumber (style : RegexStyle) : Nat → CountValue → List Char →
    CountValue × Option RegexSign × List Char
  | 0, _, cs => (.bad, none, cs)
  | n + 1, value, cs =>
    match style.readSign false cs with
    | none => (.bad, none, [])
    | some (.countEnd, rest) => (value, some .countEnd, rest)
    | some (.char c, rest) =>
      if c = ',' then (value, some (.char c), rest)
      else
        let value := match value with
          | .number m => if c.isDigit then .number (min (largestCount + 1)
              (m * 10 + (c.toNat - '0'.toNat))) else .bad
          | .none => if c.isDigit then .number (c.toNat - '0'.toNat) else .bad
          | .bad => .bad
        style.readNumber n value rest
    | some (_, rest) => style.readNumber n .bad rest

/-- The fault of a number of times that cannot be read, which ends with a sign. -/
def countFault : Option RegexSign → RegexFault
  | none => .openCount
  | some _ => .count

def readTimes (style : RegexStyle) (cs : List Char) :
    Except RegexFault ((Nat × Option Nat) × List Char) := do
  let (first, sign, rest) := style.readNumber (cs.length + 1) .none cs
  let least ← match first, sign with
    | .number n, _ => pure n
    | .none, some (.char _) => pure 0
    | .none, _ => throw .count
    | .bad, sign => throw (countFault sign)
  match sign with
  | some (.char _) =>
    let (second, sign, rest) := style.readNumber (rest.length + 1) .none rest
    let most ← match second with
      | .number n => pure (some n)
      | .none => pure Option.none
      | .bad => throw (countFault sign)
    match sign with
    | some .countEnd =>
      if most.any (· < least) then throw .count
      if largestCount < most.getD least then throw .size
      return ((least, most), rest)
    | _ => throw .count
  | _ =>
    if largestCount < least then throw .size
    return ((least, some least), rest)

end RegexStyle

/-- A group that is being read, or the whole expression. -/
structure OpenPart where
  group : Nat
  before : Option Regex := none
  /-- The pieces of the present choice but the last one. -/
  done : Regex := .empty
  /-- The last piece, if it can be repeated. -/
  last : Regex := .empty
  /-- The groups that were closed when it was opened. -/
  known : List Nat := []
  /-- The groups that were closed in the choices before the present one. -/
  closed : List Nat := []
  canRepeat : Bool := false
  wasRepeated : Bool := false
deriving Repr

namespace OpenPart

def pieces (p : OpenPart) : Regex :=
  p.done.andThen p.last

def add (p : OpenPart) (r : Regex) : OpenPart :=
  { p with done := p.pieces, last := r, canRepeat := true, wasRepeated := false }

def addPlace (p : OpenPart) (a : Anchor) : OpenPart :=
  { p with done := p.pieces.andThen (.place a), last := .empty, canRepeat := false }

def repeatLast (p : OpenPart) (least : Nat) (most : Option Nat) : OpenPart :=
  { p with last := p.last.repeated least most, wasRepeated := true }

def regex (p : OpenPart) : Regex :=
  match p.before with
  | none => p.pieces
  | some r => r.orElse p.pieces

def choose (p : OpenPart) (closed : List Nat) : OpenPart :=
  { group := p.group, before := some p.regex, known := p.known, closed := closed ++ p.closed }

end OpenPart

/-- A regular expression of which a part has been read. -/
structure RegexDraft where
  /-- The number of groups that were opened. -/
  groups : Nat := 0
  /-- The groups that were closed and can be taken again. -/
  closed : List Nat := []
  inner : OpenPart := { group := 0 }
  outer : List OpenPart := []
  placeHere : Bool := true
  /-- Whether the name of a class seems to stand between single brackets. -/
  hasLoneClass : Bool := false
deriving Repr

namespace RegexDraft

def add (d : RegexDraft) (r : Regex) : RegexDraft :=
  { d with inner := d.inner.add r, placeHere := false }

def addChar (d : RegexDraft) (c : Char) : RegexDraft :=
  d.add (.one (CharSet.ofProperty (· = c)))

/-- Adds what a sign stands for that is no bracket and no number of times. -/
def addSign (style : RegexStyle) (d : RegexDraft) : RegexSign → Except RegexFault RegexDraft
  | .char c => .ok (d.addChar c)
  | .any => .ok (d.add (.one (style.charsBut fun _ => true)))
  | .member holds => .ok (d.add (.one (CharSet.ofProperty holds)))
  | .again n => if d.closed.contains n then .ok (d.add (.again n)) else .error .reference
  | .enter => .ok { d with
      groups := d.groups + 1
      inner := { group := d.groups + 1, known := d.closed }
      outer := d.inner :: d.outer
      placeHere := true }
  | .leave =>
    match d.outer with
    | [] => if style.basicOnly then .ok (d.addChar ')') else .error .closedGroup
    | p :: outer =>
      let n := d.inner.group
      .ok { d with
        closed := n :: d.closed ++ d.inner.closed
        inner := p.add (.group n false d.inner.regex)
        outer
        placeHere := false }
  | .choice => .ok { d with
      closed := d.inner.known
      inner := d.inner.choose d.closed
      placeHere := true }
  | .times c least most =>
    if d.inner.canRepeat then
      if !style.extended && d.inner.wasRepeated && c = '*' then .error .repetition
      else .ok { d with inner := d.inner.repeatLast least most, placeHere := false }
    else if style.extended then .error .repetition
    else .ok (d.addChar c)
  | .place a => .ok { d with inner := d.inner.addPlace a, placeHere := false }
  | .backslash => .error .backslash
  | .bracket => .ok (d.addChar '[')
  | .count => .ok (d.addChar '\x7b')
  | .countEnd => .ok (d.addChar '\x7d')

def readOn (style : RegexStyle) : Nat → RegexDraft → List Char → Except RegexFault RegexDraft
  | 0, d, _ => .ok d
  | n + 1, d, cs =>
    match style.readSign d.placeHere cs with
    | none => .ok d
    | some (.bracket, rest) => do
      let ((set, isLone), rest) ← style.readBracket rest
      readOn style n { d.add (.one set) with hasLoneClass := d.hasLoneClass || isLone } rest
    | some (.count, rest) => do
      if !d.inner.canRepeat || (!style.extended && d.inner.wasRepeated) then throw .repetition
      let ((least, most), rest) ← style.readTimes rest
      readOn style n { d with inner := d.inner.repeatLast least most, placeHere := false } rest
    | some (sign, rest) => do
      let d ← d.addSign style sign
      readOn style n d rest

end RegexDraft

def Regex.read (style : RegexStyle) (cs : List Char) : Except RegexFault RegexReading := do
  let d ← RegexDraft.readOn style (cs.length + 1) {} cs
  if !d.outer.isEmpty then throw .openGroup
  return { regex := d.inner.regex, groups := d.groups, hasLoneClass := d.hasLoneClass }

end ShellPipeline
