import ShellPipeline.Script.Search
import ShellPipeline.Script.Utility.Process

/-!
# Utilities that decide what is run

Loops and functions are left, texts and files are run as scripts, the interpreter exits or becomes
another program, and traps say what is done when signals arrive.
-/

namespace ShellPipeline

namespace Script

namespace Act

def leaveLoops (why : Skip) (words : List String) : Act Nat := do
  let n ← match words with
    | [] => pure 1
    | word :: _ => do
      let n ← number word
      if n = 0 then failNumber word
      pure n
  let s ← get
  let n := min n s.loops
  if n != 0 then set { s with skip := why, skipCount := n }
  return 0

/-- Opens a script and moves it to a descriptor that scripts do not use. -/
def openScript (path : String) : Act Nat := do
  match ← call (.openFile path .reading) with
  | .error e =>
    let wording := if isAbsence e then "No such file" else e.wording
    fail ("cannot open " ++ path ++ ": " ++ wording)
  | .ok fd =>
    if 10 ≤ fd then return fd
    match ← call (.duplicate fd 10) with
    | .error e => fail (decimal fd ++ ": " ++ e.wording)
    | .ok moved =>
      let _ ← call (.close fd)
      return moved

/-- The path of a script that is looked for in the search path. -/
def findScript (name : String) : Act String := do
  if isPath name then return name
  match ← searchFile none .noEntry (programPaths (← get).searchPath name) with
  | .ok path => return path
  | .error _ => fail (name ++ ": not found")

def listTraps : Act Unit := do
  let traps := (← get).traps
  for signal in List.range (Signal.maximum + 1) do
    if let some action := traps.lookup signal then
      print ("trap -- " ++ quoteValue action ++ " " ++ signalName signal ++ "\n")

def setTraps (action : Option String) : List String → Act Nat
  | [] => pure 0
  | word :: rest => do
    match signal? 0 word with
    | none =>
      writeTo standardError ("trap: " ++ word ++ ": bad trap\n")
      return 1
    | some signal =>
      modify fun s =>
        let others := s.traps.filter (·.1 != signal)
        { s with traps := others ++ (action.map fun a => (signal, a)).toList }
      if signal != 0 then applyTrap signal action
      setTraps action rest

end Act

namespace Utility

def nothing (status : Nat) : Utility :=
  .ofWords fun _ => return status

def colon : Utility :=
  { nothing 0 with isSpecial := true }

def special (run : List String → Act Nat) : Utility where
  isSpecial := true
  run := fun _ _ words => run words

def leaving : Utility :=
  special (Act.leaveLoops .leaveLoop)

def continuing : Utility :=
  special (Act.leaveLoops .nextRound)

def exit : Utility :=
  special fun words => do
    if let some word := words.head? then
      let n ← Act.number word
      modify fun s => { s with finalStatus := some n }
    throw .exit

def leavingFunction : Utility :=
  special fun words => do
    match words with
    | [] =>
      modify fun s => { s with skip := .leaveFunction true }
      return (← get).status
    | word :: _ =>
      let n ← Act.number word
      modify fun s => { s with skip := .leaveFunction false }
      return n

def eval : Utility where
  isSpecial := true
  run := fun r mode words =>
    if words.isEmpty then pure 0
    else Act.runText r mode.isTested (" ".intercalate words)

def dot : Utility where
  isSpecial := true
  run := fun r _ words => do
    match ← Act.noOptions words with
    | [] => return 0
    | name :: _ =>
      let path ← Act.findScript name
      let fd ← Act.openScript path
      modify fun s => { s with caller := some path }
      Act.andFinally (Act.runFile r { source := { rest := [], ended := false }, fd := some fd }) do
        let _ ← Act.call (.close fd)

def exec : Utility :=
  special fun words => do
    match ← Act.noOptions words with
    | [] => return 0
    | name :: rest =>
      let path := (← get).searchPath
      Act.becomeProgram (if isPath name then [name] else programPaths path name) (name :: rest)

def trap : Utility :=
  special fun words => do
    match ← Act.noOptions words with
    | [] =>
      Act.listTraps
      return 0
    | [word] => Act.setTraps none [word]
    | word :: rest =>
      if (signalNumber? word).isSome then Act.setTraps none (word :: rest)
      else Act.setTraps (if word = "-" then none else some word) rest

def times : Utility :=
  special fun _ => do
    let line := "0m0.000000s 0m0.000000s\n"
    Act.print (line ++ line)
    return 0

end Utility

end Script

end ShellPipeline
