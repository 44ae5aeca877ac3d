import ShellPipeline.Script.Search
import ShellPipeline.Script.Utility

/-!
# Utilities for names

They tell what names stand for, remember where programs are, and show what is allowed.
-/

namespace ShellPipeline

namespace Script

/-- How an answer about a name is given. -/
inductive Manner where
  | brief
  | sentence
deriving DecidableEq, Repr

namespace Act

/-- Writes what a name stands for after keywords and aliases. -/
def describeMeaning (m : Manner) (name : String) (isTracked : Bool) (meaning : Meaning) :
    Act Nat := do
  let answer (sentence brief : String) : Act Nat := do
    print (if m = .brief then brief ++ "\n" else name ++ sentence ++ "\n")
    return 0
  match meaning with
  | .function _ => answer " is a shell function" name
  | .utility =>
    let kind := if specialCommands.contains name then "special " else ""
    answer (" is a " ++ kind ++ "shell builtin") name
  | .program paths =>
    let path := paths.headD name
    answer (" is" ++ (if isTracked then " a tracked alias for " else " ") ++ path) path
  | .unknown _ =>
    if m = .sentence then print (name ++ ": not found\n")
    return 127

def describe (m : Manner) (other : Option String) (name : String) : Act Nat := do
  let s ← get
  if Token.keywords.contains name then
    print (if m = .brief then name ++ "\n" else name ++ " is a shell keyword\n")
    return 0
  if let some value := s.aliases.lookup name then
    print (if m = .brief then "alias " ++ name ++ "=" ++ quoteValue value ++ "\n"
      else name ++ " is an alias for " ++ value ++ "\n")
    return 0
  if isPath name then
    match ← call (.describe name true) with
    | .ok _ => return ← describeMeaning m name Bool.false (.program [name])
    | .error e => return ← describeMeaning m name Bool.false (.unknown e)
  let tracked := if other.isNone then s.found.find? (·.name = name) else none
  match tracked with
  | some p =>
    if !(s.functions.lookup name).isSome then
      return ← describeMeaning m name Bool.true (.program [p.path])
  | none => pure ()
  describeMeaning m name Bool.false (← meaningOf other.isNone other name)

/-- Writes what names stand for. Answers the status. -/
def describeAll : List String → Act Nat
  | [] => pure 0
  | name :: rest => do
    let status ← describe .sentence none name
    return status ||| (← describeAll rest)

/-- The number of groups into which programs are sorted. -/
def programGroups : Nat := 31

def listFound : Act Unit := do
  let group (p : FoundProgram) : Nat := State.groupAmong programGroups p.name
  for p in (← get).found.mergeSort fun a b => group a ≤ group b do
    print (p.path ++ (if p.isOld then "*" else "") ++ "\n")

/-- Looks for programs again. Answers the status. -/
def lookForAll : List String → Act Nat
  | [] => pure 0
  | name :: rest => do
    modify fun s => s.forget name
    let status ← match ← meaningOf Bool.true none name with
      | .unknown e => do
        warn (name ++ ": " ++ programWording e)
        pure 1
      | _ => pure 0
    return max status (← lookForAll rest)

/-- What limits there are, with their letters, names, units and values. -/
def limits : List (Char × String × String × String) :=
  [('t', "time", "seconds", "unlimited"), ('f', "file", "blocks", "unlimited"),
    ('d', "data", "kbytes", "unlimited"), ('s', "stack", "kbytes", "8192"),
    ('c', "coredump", "blocks", "unlimited"), ('m', "memory", "kbytes", "unlimited"),
    ('l', "locked memory", "kbytes", "8192"), ('p', "process", "", "unlimited"),
    ('n', "nofiles", "", "1048576"), ('v', "vmemory", "kbytes", "unlimited"),
    ('w', "locks", "", "unlimited"), ('r', "rtprio", "", "0")]

def limitLine (name unit value : String) : String :=
  let title := if unit = "" then name else name ++ "(" ++ unit ++ ")"
  title ++ String.ofList (List.replicate (20 - title.length) ' ') ++ " " ++ value ++ "\n"

end Act

namespace Utility

def command : Utility :=
  .ofWords fun words => do
    let (options, words) ← Act.options "pvV" words
    let other := (options.lookup 'p').map fun _ => standardPath
    let verbose := (options.lookup 'V').isSome
    match words with
    | name :: _ =>
      if verbose then Act.describe .sentence other name
      else if (options.lookup 'v').isSome then Act.describe .brief other name
      else return 0
    | [] => return 0

def type : Utility :=
  .ofWords Act.describeAll

def hash : Utility :=
  .ofWords fun words => do
    let (options, words) ← Act.options "r" words
    if !options.isEmpty then
      modify fun s => { s with found := [] }
      return 0
    if words.isEmpty then
      Act.listFound
      return 0
    Act.lookForAll words

def ulimit : Utility :=
  .ofWords fun words => do
    let (options, words) ← Act.options "HSatfdscmlpnvwr" words
    if (options.lookup 'a').isSome then
      for (_, name, unit, value) in Act.limits do
        Act.print (Act.limitLine name unit value)
      return 0
    let letters := (options.map Prod.fst).filter fun c => c != 'H' && c != 'S'
    let letter := letters.getLast?.getD 'f'
    if let some word := words.head? then
      if word != "unlimited" && !word.toList.all Char.isDigit then Act.fail "bad number"
      return 0
    Act.print (((Act.limits.lookup letter).map fun x => x.2.2).getD "" ++ "\n")
    return 0

end Utility

end Script

end ShellPipeline
