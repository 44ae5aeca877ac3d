import ShellPipeline.Edit.Escape
import ShellPipeline.Edit.Script
import ShellPipeline.Text.Regex.Read

/-!
# Reading editing scripts

A script is read from expressions and from files, one after the other. A text that an expression
ends in the middle of goes on in the next one. What is wrong is said with the place where it was
noticed.
-/

namespace ShellPipeline

/-- What is wrong with an editing script. -/
inductive EditFault where
  /-- A text does not follow a backslash. -/
  | noText
  | openBlock
  /-- A block is closed that was not opened. -/
  | closedBlock
  /-- The end of a block has an address. -/
  | closedBlockAddress
  /-- A comma does not come before an address. -/
  | comma
  | negations
  /-- The first address says how far it is from another one. -/
  | relative
  | lineZero
  | unknown (command : Char)
  | noCommand
  | noLabel
  | labelAddress
  | commentAddress
  | extra
  | oneAddress
  | noFile
  /-- A list of characters is not closed. -/
  | openCharacters
  | openSubstitution
  | openAddress
  | lengths
  | substitutionOption
  /-- A substitution puts out the line twice. -/
  | twicePrint
  | twiceAll
  | twiceNumber
  /-- A substitution replaces a match with the number zero. -/
  | matchZero
  /-- A replacement has a group that the expression does not have. -/
  | group (number : Nat)
  /-- Something was to be searched for again before anything was. -/
  | noPattern
  /-- What is searched for again has options. -/
  | patternOptions
  /-- A control character is made of an escape. -/
  | controlEscape
  /-- A version is asked for that does not exist. -/
  | version
  /-- Something is asked for that is not allowed. -/
  | forbidden
  | pattern (f : RegexFault)
deriving DecidableEq, Repr

def EditFault.message : EditFault → String
  | noText => "expected \\ after \x60a', \x60c' or \x60i'"
  | openBlock => "unmatched \x60\x7b'"
  | closedBlock => "unexpected \x60\x7d'"
  | closedBlockAddress => "\x60\x7d' doesn't want any addresses"
  | comma => "unexpected \x60,'"
  | negations => "multiple \x60!'s"
  | relative => "invalid usage of +N or ~N as first address"
  | lineZero => "invalid usage of line address 0"
  | unknown command => "unknown command: \x60" ++ command.toString ++ "'"
  | noCommand => "missing command"
  | noLabel => "\":\" lacks a label"
  | labelAddress => ": doesn't want any addresses"
  | commentAddress => "comments don't accept any addresses"
  | extra => "extra characters after command"
  | oneAddress => "command only uses one address"
  | noFile => "missing filename in r/R/w/W commands"
  | openCharacters => "unterminated \x60y' command"
  | openSubstitution => "unterminated \x60s' command"
  | openAddress => "unterminated address regex"
  | lengths => "strings for \x60y' command are different lengths"
  | substitutionOption => "unknown option to \x60s'"
  | twicePrint => "multiple \x60p' options to \x60s' command"
  | twiceAll => "multiple \x60g' options to \x60s' command"
  | twiceNumber => "multiple number options to \x60s' command"
  | matchZero => "number option to \x60s' command may not be zero"
  | group number => "invalid reference \\" ++ decimal number ++ " on \x60s' command's RHS"
  | noPattern => "no previous regular expression"
  | patternOptions => "cannot specify modifiers on empty regexp"
  | controlEscape => "recursive escaping after \\c not allowed"
  | version => "expected newer version of sed"
  | forbidden => "e/r/w commands disabled in sandbox mode"
  | pattern f => f.message

/-- Where a part of a script comes from. -/
inductive EditSource where
  | expression (number : Nat)
  | file (name : String)
deriving DecidableEq, Repr

/-- How a script is written. -/
structure EditStyle where
  /-- Whether regular expressions have operators without a backslash. -/
  extended : Bool := false
  /-- Whether only what is common to all editors is known. -/
  basicOnly : Bool := false
  /-- Whether other files and programs may not be used. -/
  confined : Bool := false
  ending : Char := '\n'
deriving DecidableEq, Repr

/-- Why the reading of a script stops. -/
inductive EditStop where
  /-- Something is wrong at the place that was reached. -/
  | fault (f : EditFault)
  /-- The name of a class stands between single brackets. -/
  | loneClass
deriving DecidableEq, Repr

/-- A script of which a part has been read. -/
structure EditDraft where
  commands : Array EditCommand := #[]
  /-- The blocks that are open, each with the source and the line where it was opened. -/
  blocks : List (Nat × EditSource × Nat) := []
  labels : List (String × Nat) := []
  jumps : List (Nat × String) := []
  /-- The files that are written, in the order in which they are opened. -/
  outputs : List String := []
  /-- The files that are read line by line. -/
  inputs : List String := []
  /-- The command whose text goes on, and its text in reverse. -/
  pending : Option (Nat × List Char) := none
  /-- Whether lines are put out only by commands. -/
  silent : Bool := false
  /-- Whether this is the first part of the script. -/
  isFirst : Bool := true
  source : EditSource := .expression 1
  /-- The number of characters of it that were read. -/
  consumed : Nat := 0
  /-- The number of the line in it. -/
  line : Nat := 1
  /-- The characters of it that were not read. -/
  rest : List Char := []

abbrev EditReader := ExceptT EditStop (StateM EditDraft)

namespace EditReader

def fault {α : Type} (f : EditFault) : EditReader α :=
  throw (.fault f)

def next : EditReader (Option Char) := do
  let d ← get
  match d.rest with
  | [] => return none
  | c :: rest =>
    set { d with
      rest
      consumed := d.consumed + 1
      line := if c = '\n' then d.line + 1 else d.line }
    return some c

def peek : EditReader (Option Char) :=
  return (← get).rest.head?

def back (c : Option Char) : EditReader Unit := do
  if let some c := c then
    modify fun d => { d with
      rest := c :: d.rest
      consumed := d.consumed - 1
      line := if c = '\n' then d.line - 1 else d.line }

def span (holds : Char → Bool) : EditReader (List Char) := do
  let d ← get
  let cs := d.rest.takeWhile holds
  set { d with
    rest := d.rest.drop cs.length
    consumed := d.consumed + cs.length
    line := d.line + cs.count '\n' }
  return cs

def isBlank (c : Char) : Bool :=
  c = ' ' || c = '\t'

def isSpace (c : Char) : Bool :=
  c = ' ' || ('\t' ≤ c && c ≤ '\r')

def nextVisible : EditReader (Option Char) := do
  let _ ← span isBlank
  next

/-- Reads a number that begins with a character that was read. It is zero if that is no digit. -/
def number (c : Option Char) : EditReader Nat := do
  back c
  return numberOf 10 (← span Char.isDigit)

def endCommand : EditReader Unit := do
  match ← nextVisible with
  | none | some '\n' | some ';' => return
  | some c => if c = '\x7d' || c = '#' then back (some c) else fault .extra

/-- Reads a bracket in a regular expression after its opening, with the delimiter of a bracket in it
and how much of that was read: nothing, its opening bracket, its delimiter, or its delimiter
again. Answers what was read, and whether the bracket was closed. There are at most so many
characters. -/
def bracketRest : Nat → List Char → Nat → Char → EditReader (List Char × Bool)
  | 0, done, _, _ => return (done, false)
  | n + 1, done, state, delimiter => do
    let some c ← next | return (done, false)
    let goOn (state : Nat) (delimiter : Char) := bracketRest n (c :: done) state delimiter
    if c = '\n' then
      back (some c)
      return (done, false)
    else if (c = '.' || c = ':' || c = '=') && state = 1 then goOn 2 c
    else if (c = '.' || c = ':' || c = '=') && state = 2 && c = delimiter then goOn 3 delimiter
    else if c = '[' then goOn (if state = 0 then 1 else state) delimiter
    else if c = ']' && state ≤ 1 then return (c :: done, true)
    else if c = ']' && state = 3 then goOn 0 delimiter
    else goOn (state / 2 * 2) delimiter

/-- Reads a bracket in a regular expression after its opening. Answers it in reverse, and whether it
was closed. -/
def bracket (done : List Char) : EditReader (List Char × Bool) := do
  let mut done := done
  if (← peek) = some '^' then
    let _ ← next
    done := '^' :: done
  if (← peek) = some ']' then
    let _ ← next
    done := ']' :: done
  bracketRest ((← get).rest.length + 1) done 0 ' '

/-- Reads up to a delimiter, after what was read in reverse. There are at most so many
characters. -/
def delimitedFor (delimiter : Char) (isPattern : Bool) :
    Nat → List Char → EditReader (Option (List Char))
  | 0, _ => return none
  | n + 1, done => do
    match ← next with
    | none => return none
    | some c =>
      if c = '\n' then
        back (some c)
        return none
      else if c = delimiter then return some done.reverse
      else if c = '\\' then
        match ← next with
        | none => return none
        | some d =>
          let done :=
            if d = delimiter then (if !isPattern && d = '&' then d :: '\\' :: done else d :: done)
            else if d = 'n' && isPattern then '\n' :: done
            else if d = '\n' then d :: done
            else d :: '\\' :: done
          delimitedFor delimiter isPattern n done
      else if c = '[' && isPattern then
        let (done, closed) ← bracket (c :: done)
        if closed then delimitedFor delimiter isPattern n done else return none
      else delimitedFor delimiter isPattern n (c :: done)

def delimited (delimiter : Char) (isPattern : Bool) : EditReader (Option (List Char)) := do
  delimitedFor delimiter isPattern ((← get).rest.length + 1) []

def unescape (place : EscapePlace) (cs : List Char) : EditReader (List Char) := do
  match place.read? cs with
  | some cs => return cs
  | none => fault .controlEscape

/-- How a regular expression that is searched for differs from others. -/
structure SearchOptions where
  /-- Whether upper and lower case are the same. -/
  ignoresCase : Bool := false
  /-- Whether it is about the lines of a text. -/
  byLines : Bool := false
deriving DecidableEq, Repr

/-- Makes what is searched for out of a regular expression, of which groups up to a number are
used. -/
def searcher (style : EditStyle) (o : SearchOptions) (largest : Nat) (cs : List Char) :
    EditReader (Option Searcher) := do
  if cs.isEmpty then
    if o.ignoresCase || o.byLines then fault .patternOptions
    return none
  let cs ← unescape .pattern cs
  let regexStyle : RegexStyle :=
    { extended := style.extended
      basicOnly := style.basicOnly
      ignoresCase := o.ignoresCase
      byLines := o.byLines }
  match Regex.read regexStyle cs with
  | .error f => fault (.pattern f)
  | .ok r =>
    if r.groups < largest && !style.basicOnly then fault (.group largest)
    if r.hasLoneClass then throw .loneClass
    let ending := if o.byLines then some style.ending else none
    return some (Searcher.ofRegex r.regex r.groups o.ignoresCase ending)

/-- Reads the options of an address. There are at most so many characters. -/
def addressOptions (style : EditStyle) : Nat → SearchOptions → EditReader SearchOptions
  | 0, o => return o
  | n + 1, o => do
    let c ← nextVisible
    if style.basicOnly then
      back c
      return o
    match c with
    | some 'I' => addressOptions style n { o with ignoresCase := true }
    | some 'M' => addressOptions style n { o with byLines := true }
    | c =>
      back c
      return o

/-- Reads an address with a regular expression after its delimiter. -/
def patternAddress (style : EditStyle) (delimiter : Char) : EditReader Address := do
  match ← delimited delimiter true with
  | none => fault .openAddress
  | some cs =>
    let o ← addressOptions style ((← get).rest.length + 1) {}
    return .holding (← searcher style o 0 cs)

/-- Reads an address that begins with a character, if it begins one. -/
def address (style : EditStyle) (c : Option Char) : EditReader (Option Address) := do
  match c with
  | none => return none
  | some '/' => return some (← patternAddress style '/')
  | some '\\' =>
    match ← next with
    | none => fault .openAddress
    | some delimiter => return some (← patternAddress style delimiter)
  | some '$' => return some .last
  | some c =>
    if c.isDigit then
      let n ← number (some c)
      let after ← nextVisible
      if after = some '~' && !style.basicOnly then
        match ← number (← nextVisible) with
        | 0 => return some (.line n)
        | step => return some (.step n step)
      back after
      return some (.line n)
    else if (c = '+' || c = '~') && !style.basicOnly then
      let n ← number (← nextVisible)
      return some (if c = '+' then .after n else .multiple n)
    else return none

def isRelative : Address → Bool
  | .after n | .multiple n => n != 0
  | _ => false

/-- Whether a command that begins with a character can be applied to line zero, or to the lines from
there to an address. -/
def canFollowZero (style : EditStyle) (c : Option Char) : Option Address → Bool
  | some (.holding _) => !style.basicOnly
  | some _ => false
  | none => c = some 'r' && !style.basicOnly

/-- Reads the addresses of a command whose first character was read, and the first character after
them. -/
def addresses (style : EditStyle) (c : Option Char) : EditReader (EditCommand × Option Char) := do
  match ← address style c with
  | none => return ({}, c)
  | some first =>
    if isRelative first then fault .relative
    let c ← nextVisible
    let (second, c) ← if c = some ',' then do
        match ← address style (← nextVisible) with
        | none => fault .comma
        | some second => pure (some second, ← nextVisible)
      else pure (none, c)
    if let .line 0 := first then
      if !canFollowZero style c second then fault .lineZero
    return ({ first := some first, last := second }, c)

def label : EditReader String := do
  let _ ← span isBlank
  return String.ofList (← span fun c => !isSpace c && c != ';' && c != '\x7d')

def fileName : EditReader String := do
  let _ ← span isBlank
  let cs ← span (· ≠ '\n')
  let _ ← next
  if cs.isEmpty then fault .noFile
  return String.ofList cs

/-- Adds a name to a list unless it is there already. Answers its place. -/
def placeOf (names : List String) (name : String) : Nat × List String :=
  let place := names.findIdx (· = name)
  (place, if place < names.length then names else names ++ [name])

def output (style : EditStyle) : EditReader EditOutput := do
  let name ← fileName
  if name = "/dev/stdout" && !style.basicOnly then return .output
  if name = "/dev/stderr" && !style.basicOnly then return .error
  let (place, names) := placeOf (← get).outputs name
  modify fun d => { d with outputs := names }
  return .file place

/-- Reads the name of a file that is read line by line. -/
def input : EditReader Nat := do
  let name ← fileName
  let (place, names) := placeOf (← get).inputs name
  modify fun d => { d with inputs := names }
  return place

/-- What is done to the letters of the parts of a replacement. -/
structure CaseState where
  /-- What is done to all letters of the next part. -/
  all : CaseChange := .none
  /-- What is done to the first character of the next part. -/
  first : CaseChange := .none
  /-- What is done to all letters of the parts after it. -/
  later : CaseChange := .none
deriving DecidableEq, Repr

def CaseState.part (k : CaseState) (text : List Char) (group : Option Nat) : ReplacementPart :=
  { text := text.reverse, group, all := k.all, first := k.first }

def CaseState.after (k : CaseState) : CaseState :=
  { k with all := k.later, first := .none }

def replacement (basicOnly : Bool) (k : CaseState) (text : List Char) :
    List Char → List ReplacementPart
  | [] => if text.isEmpty then [] else [k.part text none]
  | ['\\'] => [k.part ('\\' :: text) none]
  | '\\' :: c :: rest =>
    let parts (k' : CaseState) : List ReplacementPart :=
      k.part text none :: replacement basicOnly k' [] rest
    if c.isDigit then
      k.part text (some (c.toNat - '0'.toNat)) :: replacement basicOnly k.after [] rest
    else if basicOnly then k.part (c :: text) none :: replacement basicOnly k.after [] rest
    else match c with
      | 'L' => parts { all := .lower, later := .lower }
      | 'U' => parts { all := .upper, later := .upper }
      | 'E' => parts {}
      | 'l' => parts { all := k.later, first := .lower, later := k.later }
      | 'u' => parts { all := k.later, first := .upper, later := k.later }
      | c => k.part (c :: text) none :: replacement basicOnly k.after [] rest
  | '&' :: rest => k.part text (some 0) :: replacement basicOnly k.after [] rest
  | c :: rest => replacement basicOnly k (c :: text) rest

/-- The options of a substitution. -/
structure SubstitutionOptions where
  search : SearchOptions := {}
  /-- The number of the first match that is replaced. -/
  first : Option Nat := none
  /-- Whether the later matches are replaced too. -/
  all : Bool := false
  /-- Whether the line is put out, before and after it is run. -/
  prints : Bool × Bool := (false, false)
  /-- Whether the line is run as a command. -/
  runs : Bool := false
  /-- Where else the line is put out. -/
  copy : Option EditOutput := none

/-- Reads the options of a substitution. There are at most so many characters. -/
def substitutionOptions (style : EditStyle) :
    Nat → SubstitutionOptions → EditReader SubstitutionOptions
  | 0, o => return o
  | n + 1, o => do
    match ← next with
    | none | some '\n' | some ';' => return o
    | some 'i' | some 'I' =>
      if style.basicOnly then fault .substitutionOption
      substitutionOptions style n { o with search := { o.search with ignoresCase := true } }
    | some 'm' | some 'M' =>
      if style.basicOnly then fault .substitutionOption
      substitutionOptions style n { o with search := { o.search with byLines := true } }
    | some 'e' =>
      if style.basicOnly then fault .substitutionOption
      substitutionOptions style n { o with runs := true }
    | some 'p' =>
      if o.prints.1 || o.prints.2 then fault .twicePrint
      substitutionOptions style n { o with prints := (!o.runs, o.runs) }
    | some 'g' =>
      if o.all then fault .twiceAll
      substitutionOptions style n { o with all := true }
    | some 'w' =>
      if style.confined then fault .forbidden
      return { o with copy := some (← output style) }
    | some '\r' =>
      if (← next) = some '\n' then return o
      fault .substitutionOption
    | some c =>
      if c.isDigit then
        if o.first.isSome then fault .twiceNumber
        match ← number (some c) with
        | 0 => fault .matchZero
        | k => substitutionOptions style n { o with first := some k }
      else if c = '\x7d' || c = '#' then
        back (some c)
        return o
      else if isBlank c then substitutionOptions style n o
      else fault .substitutionOption

def substitution (style : EditStyle) : EditReader Substitution := do
  let some delimiter ← next | fault .openSubstitution
  let some pattern ← delimited delimiter true | fault .openSubstitution
  let some text ← delimited delimiter false | fault .openSubstitution
  let parts := replacement style.basicOnly {} [] (← unescape .replacement text)
  let largest := (parts.map fun p => p.group.getD 0).foldl max 0
  let o ← substitutionOptions style ((← get).rest.length + 1) {}
  let searcher ← searcher style o.search largest pattern
  if style.confined && o.runs then fault .forbidden
  return {
    searcher
    parts
    largest
    first := o.first.getD 1
    all := o.all
    prints := o.prints
    runs := o.runs
    copy := o.copy }

/-- The characters of a list of characters in which any of them can stand after a backslash. -/
def plainChars : List Char → List Char
  | '\\' :: c :: rest => c :: plainChars rest
  | c :: rest => c :: plainChars rest
  | [] => []

def characters : EditReader (List (Char × Char)) := do
  let some delimiter ← next | fault .openCharacters
  let some a ← delimited delimiter false | fault .openCharacters
  let a := plainChars (← unescape .characters a)
  let some b ← delimited delimiter false | fault .openCharacters
  let b := plainChars (← unescape .characters b)
  if a.length != b.length then fault .lengths
  endCommand
  return (a.zip b).reverse

def setAction (place : Nat) (action : EditAction) : EditReader Unit :=
  modify fun d =>
    { d with commands := d.commands.modify place fun c => { c with action } }

def withText (action : EditAction) (text : List Char) : EditAction :=
  match action with
  | .append _ => .append text
  | .insert _ => .insert text
  | .change _ => .change text
  | .run _ => .run (some text)
  | a => a

/-- Reads a text of at most so many characters, after what was read of it in reverse. Answers whether
it came to its end. -/
def textFor : Nat → List Char → EditReader (List Char × Bool)
  | 0, done => return (done, true)
  | n + 1, done => do
    match ← next with
    | none | some '\n' => return ('\n' :: done, true)
    | some '\\' =>
      match ← next with
      | none => return ('\n' :: done, false)
      | some c => textFor n (c :: '\\' :: done)
    | some c => textFor n (c :: done)

/-- Reads the text of a command with a number, after what was read of it in reverse. -/
def text (place : Nat) (done : List Char) : EditReader Unit := do
  let (done, closed) ← textFor ((← get).rest.length + 1) done
  let cs ← unescape .text done.reverse
  modify fun d =>
    { d with
      commands := d.commands.modify place fun c => { c with action := withText c.action cs }
      pending := if closed then none else some (place, done) }

def add (c : EditCommand) (action : EditAction) : EditReader Unit :=
  modify fun d => { d with commands := d.commands.push { c with action } }

def textCommand (style : EditStyle) (c : EditCommand) (action : EditAction) : EditReader Unit := do
  let place := (← get).commands.size
  match ← nextVisible with
  | none => fault .noText
  | some '\\' =>
    add c action
    match ← next with
    | none => modify fun d => { d with pending := some (place, []) }
    | some '\n' => text place []
    | other =>
      back other
      text place []
  | other =>
    if style.basicOnly then fault .noText
    back other
    add c action
    text place []

/-- Reads the number of a command if there is one, and its end. -/
def numberOption (style : EditStyle) : EditReader (Option Nat) := do
  let c ← nextVisible
  let n ← if c.any Char.isDigit && !style.basicOnly then some <$> number c
    else do
      back c
      pure none
  endCommand
  return n

def plainActions : List (Char × EditAction) :=
  [('=', .number), ('d', .drop), ('D', .dropFirst), ('F', .fileName), ('g', .take),
    ('G', .takeMore), ('h', .hold), ('H', .holdMore), ('n', .next), ('N', .nextMore),
    ('p', .print), ('P', .printFirst), ('x', .exchange), ('z', .clear)]

/-- Reads a comment. If a script begins with one whose first letter is an n, lines are put out only by
commands. -/
def comment : EditReader Unit := do
  let d ← get
  let cs ← span (· ≠ '\n')
  let _ ← next
  if d.isFirst && d.consumed = 1 && cs.head? = some 'n' then
    modify fun d => { d with silent := true }

/-- The version of the commands that are known. -/
def knownVersion : Nat × Nat := (4, 9)

/-- Whether the text of a version is newer than the commands that are known. -/
def isNewer (version : String) : Bool :=
  let numbers := (version.splitOn ".").map fun s => s.toNat?.getD 0
  let major := numbers.headD 0
  knownVersion.1 < major || (knownVersion.1 = major && knownVersion.2 < (numbers.drop 1).headD 0)

def outsideCommands : List Char :=
  ['e', 'r', 'R', 'w', 'W']

def command (style : EditStyle) (c : EditCommand) (letter : Char) : EditReader Unit := do
  match letter with
  | '#' =>
    if c.first.isSome then fault .commentAddress
    comment
  | ':' =>
    if c.first.isSome then fault .labelAddress
    let name ← label
    if name = "" then fault .noLabel
    modify fun d => { d with labels := (name, d.commands.size) :: d.labels }
  | '\x7b' =>
    modify fun d => { d with blocks := (d.commands.size, d.source, d.line) :: d.blocks }
    add c (.block 0)
  | '\x7d' =>
    match (← get).blocks with
    | [] => fault .closedBlock
    | (place, _) :: blocks =>
      if c.first.isSome then fault .closedBlockAddress
      endCommand
      modify fun d => { d with blocks }
      setAction place (.block (← get).commands.size)
  | 'e' =>
    match ← nextVisible with
    | none | some '\n' => add c (.run none)
    | other =>
      back other
      let place := (← get).commands.size
      add c (.run (some []))
      text place []
  | 'a' => textCommand style c (.append [])
  | 'i' => textCommand style c (.insert [])
  | 'c' => textCommand style c (.change [])
  | 'l' => add c (.list (← numberOption style))
  | 'q' | 'Q' =>
    if c.last.isSome then fault .oneAddress
    add c (.quit (letter = 'q') ((← numberOption style).getD 0))
  | 'r' =>
    let path ← fileName
    match c.first, c.last with
    | some (.line 0), none => add { c with first := some (.line 1) } (.readNow path)
    | _, _ => add c (.read path)
  | 'R' => add c (.readLine (← input))
  | 'w' => add c (.write false (← output style))
  | 'W' => add c (.write true (← output style))
  | 's' => add c (.substitute (← substitution style))
  | 'y' => add c (.replaceChars (← characters))
  | 'b' | 't' | 'T' =>
    let name ← label
    modify fun d => { d with jumps := (d.commands.size, name) :: d.jumps }
    add c (.jump (if letter = 'b' then none else some (letter = 't')) 0)
  | 'v' =>
    if isNewer (← label) then fault .version
  | letter =>
    match plainActions.lookup letter with
    | none => fault (.unknown letter)
    | some action =>
      endCommand
      add c action

def rareCommands : List Char :=
  ['e', 'F', 'v', 'z', 'Q', 'T', 'R', 'W']

/-- The commands that have only one address in some editors. -/
def oneAddressCommands : List Char :=
  ['a', 'i', 'l', '=', 'r']

/-- Reads commands, of which there are at most so many. -/
def commands (style : EditStyle) : Nat → EditReader Unit
  | 0 => return
  | n + 1 => do
    let _ ← span fun c => isSpace c || c = ';'
    let c ← next
    if c.isNone then return
    let (command, c) ← addresses style c
    let (command, c) ← if c = some '!' then do
        let c ← nextVisible
        if c = some '!' then fault .negations
        pure ({ command with negated := true }, c)
      else pure (command, c)
    match c with
    | none => fault .noCommand
    | some letter =>
      if style.basicOnly then
        if rareCommands.contains letter then fault (.unknown letter)
        if oneAddressCommands.contains letter && command.last.isSome then fault .oneAddress
      if style.confined && outsideCommands.contains letter then fault .forbidden
      EditReader.command style command letter
      commands style n

def part (style : EditStyle) (source : EditSource) (cs : List Char) : EditReader Unit := do
  modify fun d => { d with source, consumed := 0, line := 1, rest := cs }
  if let some (place, done) := (← get).pending then text place done
  commands style (cs.length + 1)
  modify fun d => { d with isFirst := false }

end EditReader

namespace EditDraft

/-- Where a part of a script has a fault, in messages. -/
def place (source : EditSource) (consumed line : Nat) : String :=
  match source with
  | .expression number =>
    "-e expression #" ++ decimal number ++ ", char " ++ decimal consumed ++ ": "
  | .file name => "file " ++ name ++ " line " ++ decimal line ++ ": "

/-- What is said about a fault at the place that was reached. -/
def faultText (d : EditDraft) (f : EditFault) : String :=
  place d.source d.consumed d.line ++ f.message

/-- What is said about a fault that is noticed after the whole script was read. -/
def lateFaultText (d : EditDraft) (f : EditFault) : String :=
  place d.source 0 d.line ++ f.message

/-- What is said about a block that is not closed, if there is one. -/
def openBlockText? (d : EditDraft) : Option String :=
  d.blocks.head?.map fun (_, source, line) => place source 0 line ++ EditFault.openBlock.message

/-- The first jump to a label that does not exist, of those that were read last. -/
def missingLabel? (d : EditDraft) : Option String :=
  (d.jumps.find? fun j => j.2 != "" && (d.labels.lookup j.2).isNone).map Prod.snd

def finished (d : EditDraft) : Array EditCommand :=
  d.jumps.foldl (fun commands (place, name) =>
    let target := (d.labels.lookup name).getD d.commands.size
    commands.modify place fun c =>
      { c with action := match c.action with
        | .jump condition _ => .jump condition target
        | a => a }) d.commands

end EditDraft

end ShellPipeline
