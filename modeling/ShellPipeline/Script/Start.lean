import ShellPipeline.Script.Run

/-!
# Starting an interpreter

The words that an interpreter is given tell its options and where its script is: in one of the
words, in a file, or in what it reads. From its environment it takes its first variables.
-/

namespace ShellPipeline

namespace Script

/-- The words of an interpreter while they are read. -/
structure StartWords where
  hasText : Bool := false
  unset : List Char := []
  rest : List String

def firstVariables : List (String × String) :=
  [("IFS", " \t\n"), ("OPTIND", "1"), ("PATH", standardPath), ("PS1", "$ "), ("PS2", "> "),
    ("PS4", "+ ")]

/-- The variables whose values are not taken from the environment. -/
def ownVariables (parent : Nat) : List (String × String) :=
  [("IFS", " \t\n"), ("OPTIND", "1"), ("PPID", decimal parent)]

/-- How often an interpreter refuses to end when its input does. -/
def refusals : Nat := 50

namespace Act

def importVariables (environment : Environment) (parent : Nat) : Act Unit := do
  for (name, value) in firstVariables do
    modify fun s => s.putVariable name { value := some value }
  for (name, value) in environment do
    if isName name.toList then
      modify fun s => s.putVariable name { value := some value, exported := true }
  for (name, value) in ownVariables parent do
    modify fun s => s.putVariable name { (s.lookup? name).getD {} with value := some value }

/-- Finds out the path of the working directory. The one of the environment is taken if it is
right. -/
def findPlace : Act Unit := do
  let given := (← get).value? "PWD"
  let isRight ← match given with
    | none => pure false
    | some path => do
      if !path.startsWith "/" then pure false
      else match ← call (.describe path true), ← call (.describe "." true) with
        | .ok a, .ok b => pure (a.number = b.number)
        | _, _ => pure false
  setDirectory (if isRight then given else none) false

/-- Reads the letters of a word. Answers whether a name is wanted. -/
def startLetters (on : Bool) : List Char → StartWords → Act (StartWords × Bool)
  | [], w => pure (w, false)
  | 'c' :: rest, w => startLetters on rest { w with hasText := true }
  | 'l' :: rest, w => startLetters on rest w
  | 'o' :: rest, w => do
    let (w, _) ← startLetters on rest w
    return (w, true)
  | c :: rest, w => do
    let _ ← switchLetters on [c]
    startLetters on rest (if on then w else { w with unset := c :: w.unset })

/-- Sets the option with a name, or writes all of them. An option about which nothing was said is
shown as set. -/
def startNamed (on : Bool) (w : StartWords) : Act Unit := do
  match w.rest.head? with
  | some name => switchNamed on (some name)
  | none =>
    let options := (← get).options
    let shown := (optionNames.map Prod.snd).filter (!w.unset.contains ·)
    modify fun s => { s with options := shown }
    switchNamed on none
    modify fun s => { s with options }

/-- Reads the options of an interpreter in at most so many words. -/
def startOptions : Nat → StartWords → Act StartWords
  | 0, w => pure w
  | n + 1, w => do
    match w.rest with
    | [] => return w
    | word :: rest =>
      match word.toList with
      | ['-'] | ['-', '-'] => return { w with rest }
      | sign :: letters =>
        if sign != '-' && sign != '+' then return w
        let on := sign = '-'
        let (w, named) ← startLetters on letters { w with rest }
        if !named then return ← startOptions n w
        startNamed on w
        startOptions n { w with rest := w.rest.drop 1 }
      | [] => return w

/-- Says again and again that the input is not the way to end. -/
def refuseEnd : Act Unit := do
  if (← get).has 'I' then
    for _ in List.range refusals do
      writeTo standardError "\nUse \"exit\" to leave shell.\n"

def runDescriptor (r : Runner) (fd : Nat) : Act Nat :=
  whileReading { source := { rest := [], ended := false }, fd := some fd } do
    let status ← runInput r false
    refuseEnd
    return status

/-- Takes over the name of the script and the arguments. -/
def takeArguments (words : List String) : Act Unit := do
  match words with
  | [] => return
  | name :: arguments => modify fun s => { s with name, arguments }

def runScript (r : Runner) (words : List String) (environment : Environment) : Act Nat := do
  let (number, parent) ← call .identity
  modify fun s => { s with number }
  importVariables environment parent
  findPlace
  let w ← startOptions (words.length + 1) { rest := words.drop 1 }
  flush
  if w.rest.isEmpty then
    if w.hasText then fail "-c requires an argument"
    modify fun s => { s with options := 's' :: s.options.filter (· != 's') }
  if w.hasText then
    takeArguments (w.rest.drop 1)
    let readsOn := (← get).has 's'
    let status ← runText r false (w.rest.headD "")
    if !readsOn || (← isSkipping) then return status
    runDescriptor r 0
  else if (← get).has 's' then
    modify fun s => { s with arguments := w.rest }
    runDescriptor r 0
  else
    let fd ← openScript (w.rest.headD "")
    takeArguments w.rest
    runDescriptor r fd

end Act

end Script

namespace Tool

def sh : Tool :=
  fun words environment =>
    Script.live Script.runner (Script.Act.runScript Script.runner words environment)
      { name := words.headD "" }

end Tool

end ShellPipeline
