import ShellPipeline.Tool.Basic
import ShellPipeline.Tool.Quote

/-!
# Options of tools

An option is a letter after a hyphen, or a name after two of them that may be shortened as long as
it is clear. It may have a value, which is the rest of its word or the next word. Options may stand
after other words, unless the tool takes them only before, and end at two hyphens.
-/

namespace ShellPipeline

/-- Whether an option has a value. -/
inductive Valued where
  | never
  | always
  /-- It has one if it stands in the same word. -/
  | perhaps
deriving DecidableEq, Repr

/-- The options that a tool knows. -/
structure KnownOptions where
  letters : List (Char × Valued) := []
  /-- The names, each with what it is known by to the tool. -/
  names : List (String × Valued × String) := []
  /-- Whether options stand only before all other words. -/
  onlyFirst : Bool := false
  /-- Whether what looks like a negative number is no option. -/
  sparesNumbers : Bool := false

/-- A word on the command line of a tool, as far as it could be read. -/
inductive OptionWord where
  | option (key : String) (value : Option String)
  | operand (word : String)
  | fault (message : String)
deriving DecidableEq, Repr

namespace KnownOptions

def ofLetters (letters : String) : List (Char × Valued) :=
  letters.toList.map (·, .never)

/-- Reads the letters of a word, with the words after it. Answers also how many of those were taken
as values. -/
def readLetters (k : KnownOptions) (next : List String) : List Char → List OptionWord × Nat
  | [] => ([], 0)
  | c :: rest =>
    match k.letters.lookup c with
    | none =>
      let (more, taken) := k.readLetters next rest
      (.fault ("invalid option -- '" ++ c.toString ++ "'") :: more, taken)
    | some .never =>
      let (more, taken) := k.readLetters next rest
      (.option c.toString none :: more, taken)
    | some .perhaps =>
      ([.option c.toString (if rest.isEmpty then none else some (String.ofList rest))], 0)
    | some .always =>
      match rest, next with
      | [], [] => ([.fault ("option requires an argument -- '" ++ c.toString ++ "'")], 0)
      | [], value :: _ => ([.option c.toString (some value)], 1)
      | rest, _ => ([.option c.toString (some (String.ofList rest))], 0)

def usualNames : List (String × Valued × String) :=
  [("help", .never, "help"), ("version", .never, "version")]

def candidates (k : KnownOptions) (name : String) : List (String × Valued × String) :=
  let names := k.names ++ usualNames
  match names.find? (·.1 = name) with
  | some exact => [exact]
  | none => names.filter fun n => name.toList.isPrefixOf n.1.toList

/-- Reads the option with a name, with the words after it. -/
def readName (k : KnownOptions) (next : List String) (name : String) (value : Option String) :
    OptionWord × Nat :=
  match k.candidates name with
  | [] => (.fault ("unrecognized option '--" ++ name ++ "'"), 0)
  | (full, valued, key) :: others =>
    if others.any fun o => o.2 != (valued, key) then
      let shown := (full :: others.map Prod.fst).map fun n => " '--" ++ n ++ "'"
      (.fault ("option '--" ++ name ++ "' is ambiguous; possibilities:" ++ String.join shown), 0)
    else match valued, value with
      | .never, none => (.option key none, 0)
      | .never, some _ => (.fault ("option '--" ++ full ++ "' doesn't allow an argument"), 0)
      | .always, none =>
        match next with
        | [] => (.fault ("option '--" ++ full ++ "' requires an argument"), 0)
        | value :: _ => (.option key (some value), 1)
      | _, value => (.option key value, 0)

def splitName (cs : List Char) : String × Option String :=
  let name := cs.takeWhile (· ≠ '=')
  (String.ofList name,
    if name.length < cs.length then some (String.ofList (cs.drop (name.length + 1))) else none)

/-- Whether the first letter of a word after its hyphen begins a negative number. -/
def beginsNumber (c : Char) : Bool :=
  c.isDigit || c = '.'

/-- Reads words, of which so many are values that were taken already. -/
def read (k : KnownOptions) : Nat → List String → List OptionWord
  | _, [] => []
  | taken + 1, _ :: rest => k.read taken rest
  | 0, word :: rest =>
    match word.toList with
    | ['-', '-'] => rest.map .operand
    | '-' :: '-' :: cs =>
      let (name, value) := splitName cs
      let (o, taken) := k.readName rest name value
      o :: k.read taken rest
    | '-' :: c :: cs =>
      if k.sparesNumbers && beginsNumber c then (word :: rest).map .operand
      else
        let (os, taken) := k.readLetters rest (c :: cs)
        os ++ k.read taken rest
    | _ => if k.onlyFirst then (word :: rest).map .operand else .operand word :: k.read 0 rest

end KnownOptions

namespace Job

/-- Finds the choice that the value of an option stands for. It may be shortened as long as it is
clear. -/
def choose (name : String) (choices : List (String × String)) (value : String) : Job String := do
  let found := choices.filter fun c => value.toList.isPrefixOf c.1.toList
  match choices.lookup value, found with
  | some choice, _ => return choice
  | none, (_, choice) :: others =>
    if others.all (·.2 = choice) then return choice
    complain ("ambiguous argument " ++ Quote.value value ++ " for '" ++ name ++ "'")
  | none, [] => complain ("invalid argument " ++ Quote.value value ++ " for '" ++ name ++ "'")
  report "Valid arguments are:\n"
  let meanings := (choices.map Prod.snd).eraseDups
  report (String.join (meanings.map fun m =>
    let names := (choices.filter (·.2 = m)).map fun c => "'" ++ c.1 ++ "'"
    "  - " ++ ", ".intercalate names ++ "\n"))
  report ("Try '" ++ (← get).name ++ " --help' for more information.\n")
  leave 1

/-- Reads the words of a tool, of which every option changes a value. Answers that value and the
words that are no options. -/
def readOptions {σ : Type} (k : KnownOptions) (words : List String) (start : σ)
    (use : σ → String → String → Job σ) : Job (σ × List String) := do
  let mut s := start
  let mut operands : List String := []
  for word in k.read 0 words do
    match word with
    | .fault message => misuse message
    | .operand w => operands := w :: operands
    | .option key value =>
      if key = "help" || key = "version" then leave 0
      s ← use s key (value.getD "")
  return (s, operands.reverse)

end Job

end ShellPipeline
