import ShellPipeline.Script.State

/-!
# Variables

Variables get values, are given to other programs, keep their values for good, and are hidden while
a function or a command has others with the same names.
-/

namespace ShellPipeline

namespace Script

/-- What else becomes of a variable that gets a value. -/
structure Marking where
  exported : Bool := false
  isReadOnly : Bool := false

/-- The name of the variable that counts options. -/
def optionIndexName : String := "OPTIND"

/-- The largest number that an interpreter reads where only few are of use. -/
def maxNumber : Int := 2147483647

def isBlank (c : Char) : Bool :=
  c = ' ' || ('\t' ≤ c && c ≤ '\r')

def number? (text : String) : Option Int :=
  let cs := text.toList.dropWhile isBlank
  let cs := (cs.reverse.dropWhile isBlank).reverse
  (readSigned? cs).filter fun i => -9223372036854775808 ≤ i && i ≤ 9223372036854775807

namespace Act

def failNumber {α : Type} (text : String) : Act α :=
  fail ("Illegal number: " ++ text)

def integer (text : String) : Act Int := do
  match number? text with
  | some i => return i
  | none => failNumber text

/-- The number that a text is, if it is not too large and not below zero. -/
def number (text : String) : Act Nat := do
  let i ← integer text
  if i < 0 || maxNumber < i then failNumber text
  return i.toNat

def checkWritable (name : String) : Act Unit := do
  if ((← get).lookup? name).any Variable.isReadOnly then fail (name ++ ": is read only")

def noticeValue (name value : String) : Act Unit := do
  if name = optionIndexName then
    let n ← number value
    modify fun s => { s with optionIndex := max 1 n, optionPlace := none }
  if name = "PATH" then modify fun s => { s with found := [] }

def setVariable (name value : String) (m : Marking) : Act Unit := do
  checkWritable name
  noticeValue name value
  modify fun s =>
    let v := (s.lookup? name).getD {}
    s.putVariable name
      { value := some value
        exported := v.exported || m.exported || s.has 'a'
        isReadOnly := v.isReadOnly || m.isReadOnly }

def checkName (name : String) : Act Unit := do
  unless isName name.toList do fail (name ++ ": bad variable name")

/-- Gives a variable a value whose name may be wrong. -/
def assign (name value : String) : Act Unit := do
  checkName name
  setVariable name value {}

def unsetVariable (name : String) : Act Unit := do
  checkWritable name
  modify fun s => { s.dropVariable name with
    found := if name = "PATH" then [] else s.found }

def markVariable (name : String) (m : Marking) : Act Unit := do
  checkName name
  modify fun s =>
    let v := (s.lookup? name).getD {}
    s.putVariable name
      { v with
        exported := v.exported || m.exported
        isReadOnly := v.isReadOnly || m.isReadOnly }

def beginHiding : Act Unit :=
  modify fun s => { s with hidden := [] :: s.hidden }

def hide (h : Hidden) : Act Unit :=
  modify fun s => { s with hidden := (h :: s.hidden.headD []) :: s.hidden.drop 1 }

def hideVariable (name : String) : Act Unit := do
  hide (.named name ((← get).lookup? name))

def restore (h : Hidden) : Act Unit := do
  match h with
  | .options letters => modify fun s => { s with options := letters }
  | .named name former =>
    match former with
    | none => modify fun s => s.dropVariable name
    | some v => modify fun s => s.putVariable name v
    if name = optionIndexName then
      modify fun s => { s with optionIndex := 1, optionPlace := none }
    if name = "PATH" then modify fun s => { s with found := [] }

def endHiding : Act Unit := do
  let hidden := (← get).hidden.headD []
  modify fun s => { s with hidden := s.hidden.drop 1 }
  for h in hidden do
    restore h

def whileHiding {α : Type} (a : Act α) : Act α := do
  beginHiding
  andFinally a endHiding

end Act

/-- A text of at most so many characters between single quotes. Its own single quotes stand between
double ones. -/
def quoteFor : Nat → List Char → List Char
  | 0, _ => []
  | n + 1, cs =>
    let plain := cs.takeWhile (· != '\'')
    let rest := cs.drop plain.length
    let marks := rest.takeWhile (· = '\'')
    let after := rest.drop marks.length
    let shown := '\'' :: plain ++ ['\'']
    if marks.isEmpty then shown
    else
      let shown := shown ++ '"' :: marks ++ ['"']
      if after.isEmpty then shown else shown ++ quoteFor n after

/-- The text of a value between quotes, from which it could be read again. -/
def quoteValue (value : String) : String :=
  String.ofList (quoteFor (value.length + 1) value.toList)

end Script

end ShellPipeline
