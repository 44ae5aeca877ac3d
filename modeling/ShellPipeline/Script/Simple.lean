import ShellPipeline.Script.Redirect
import ShellPipeline.Script.Utility.Table

/-!
# Simple commands

A simple command consists of assignments, words and redirections. Its first words tell what is run,
and that decides how the others are read and how long the assignments last.
-/

namespace ShellPipeline

namespace Script

/-- The words of a command while they are read. -/
structure Wording where
  passed : List String := []
  fields : List String := []
  rest : List Word := []

/-- What is known of a command from its first words. -/
structure Beginning where
  words : Wording
  functions : Bool := true
  /-- The search path, if it is another one than that of the interpreter. -/
  searchPath : Option String := none
  /-- Whether it is a special utility, if it is a utility. -/
  isSpecial : Option Bool := none
  /-- Whether its assignments last only as long as it runs. -/
  hides : Bool := false
  utility : Option String := none

/-- The name of the utility that runs its words as a command. -/
def commandName : String := "command"

/-- The name of the utility that replaces the interpreter. -/
def execName : String := "exec"

namespace Act

/-- The number of bytes of the output of a command that are read at once. -/
def outputBlock : Nat := 128

def takeOutput (r : Runner) (c : Option Command) : Act Bytes := do
  match c with
  | none => return []
  | some c =>
    let (input, output) ← makePipe
    let number ← fork (live r do
      becomeCopy .output
      let _ ← call (.close input)
      if output != 1 then become 1 output true
      r.run { isLast := true } c)
    let _ ← call (.close output)
    let taken ← keepOn (m := Act) (fun (taken : Queue) => do
      match ← task (Task.read input outputBlock) with
      | .ok bytes => return (taken.add bytes, !bytes.isEmpty)
      | .error e =>
        if e = .interrupted then noteSignals
        return (taken, e = .interrupted)) roundLimit {}
    let _ ← call (.close input)
    let outputStatus ← awaitAll [number]
    modify fun s => { s with outputStatus }
    return taken.toBytes

def expander (r : Runner) : Expander :=
  expanderFor (takeOutput r) roundLimit

def fieldsOf (x : Expander) (w : Word) : Act (List String) := do
  let ps ← x.expand { cuts := true, tilde := true } w
  let fields := Cutting.fieldsOf (← get).separators none ps
  return (← fields.mapM fieldTexts).flatten

def assignmentOf (x : Expander) (w : Word) : Act (String × String) := do
  let (name, value) := w.assignment?.getD ([], w)
  let ps ← x.expand { tilde := true, colonTilde := true } value
  return (String.ofList name, String.ofList (Piece.text ps))

def firstFields (x : Expander) : List Word → Act (List String × List Word)
  | [] => pure ([], [])
  | w :: rest => do
    let fields ← fieldsOf x w
    if fields.isEmpty then firstFields x rest else return (fields, rest)

def passField (x : Expander) (w : Wording) : Act Wording := do
  let passed := w.passed ++ w.fields.take 1
  match w.fields.drop 1 with
  | [] =>
    let (fields, rest) ← firstFields x w.rest
    return { passed, fields, rest }
  | fields => return { w with passed, fields }

/-- Passes over the options of a command that runs its words. Answers also whether there is
something to run, and the search path if it is another one. -/
def passOptions (x : Expander) :
    Nat → Wording → Option String → Act (Wording × Bool × Option String)
  | 0, w, path => pure (w, false, path)
  | n + 1, w, path => do
    let w ← passField x w
    match w.fields.head?.map String.toList with
    | none => return (w, false, path)
    | some ['-', '-'] =>
      let w ← passField x w
      return (w, !w.fields.isEmpty, path)
    | some ('-' :: c :: cs) =>
      if (c :: cs).all (· = 'p') then passOptions x n w (some standardPath)
      else return (w, false, if c = 'p' then some standardPath else path)
    | some _ => return (w, true, path)

/-- Finds out what a command is from its first words, of which at most so many only say that their
words are run. -/
def beginFor (x : Expander) : Nat → Beginning → Act Beginning
  | 0, b => pure b
  | n + 1, b => do
    let name := b.words.fields.headD ""
    let isFunction := b.functions && ((← get).functions.lookup name).isSome
    if isFunction || !State.isUtility name then return { b with hides := true, utility := none }
    let isSpecial := b.isSpecial.getD (specialCommands.contains name)
    let hides := if b.isSpecial.isNone then !isSpecial else true
    let b := { b with isSpecial := some isSpecial, hides, utility := some name }
    if name != commandName then return b
    let (words, runs, searchPath) ← passOptions x roundLimit b.words b.searchPath
    if runs then beginFor x n { b with words, searchPath, functions := false }
    else
      let fields := words.passed.drop b.words.passed.length ++ words.fields
      return { b with searchPath, words := { words with passed := b.words.passed, fields } }

/-- The fields of the words of a command that were not read yet. -/
def remainingFields (x : Expander) (assigns : Bool) : List Word → Act (List String)
  | [] => pure []
  | w :: rest => do
    let fields ← if assigns && w.isAssignment then do
        let (name, value) ← assignmentOf x w
        pure [name ++ "=" ++ value]
      else fieldsOf x w
    return fields ++ (← remainingFields x assigns rest)

/-- Carries out the assignments of a command. Answers them as they are shown. -/
def assignAll (x : Expander) (hides exports : Bool) : List Word → Act (List String)
  | [] => pure []
  | w :: rest => do
    let (name, value) ← assignmentOf x w
    if hides then hideVariable name
    setVariable name value { exported := hides || exports }
    return (name ++ "=" ++ value) :: (← assignAll x hides exports rest)

/-- The text that stands before a command that is shown. -/
def traceText (x : Expander) : Act String := do
  let s ← get
  let text := (s.value? "PS4").getD ""
  match (s.reading { rest := [] }).quotedText text with
  | .ok w => return String.ofList (Piece.text (← x.expand { quoted := true } w))
  | .error message =>
    warn message
    return text

def traceCommand (x : Expander) (words : List String) : Act Unit := do
  let s ← get
  if s.has 'x' && !s.isTracing then
    set { s with isTracing := true }
    let before ← traceText x
    modify fun s => { s with isTracing := false }
    writeTo s.traceDescriptor (before ++ " ".intercalate words ++ "\n")

/-- Collects processes that have ended if some of the jobs are running. -/
def lookForEnds : Act Unit := do
  unless (← get).jobs.all ScriptJob.isDone do collect

/-- Runs a utility. If something is wrong with it the script goes on, unless it is special. -/
def runUtility (r : Runner) (mode : RunMode) (isSpecial : Bool) (name : String)
    (words : List String) : Act Nat := do
  let caller := (← get).caller
  modify fun s => { s with caller := some name }
  let leave : Act Unit := modify fun s => { s with caller, held := {}, writeFault := false }
  tryCatch (do
    let status ← match Utility.named? name with
      | some u => u.run r mode words
      | none => pure 0
    flush
    let fault := (← get).writeFault
    if fault then
      modify fun s => { s with caller := some name }
      warn (name ++ ": I/O error")
    let status := if fault then status ||| 1 else status
    modify fun s => { s with status }
    leave
    lookForEnds
    return status) fun e => do
      leave
      if e = .error && !isSpecial then
        lookForEnds
        return (← get).status
      throw e

/-- How many function calls can go on at once, each within the one before. -/
def maximalCalls : Nat := 1000

def callFunction (r : Runner) (mode : RunMode) (body : Command) (words : List String) :
    Act Nat := do
  let s ← get
  if maximalCalls ≤ s.calls then
    fail ("Maximum function recursion depth (" ++ decimal maximalCalls ++ ") reached")
  set { s with
    arguments := words
    optionIndex := 1
    optionPlace := none
    loops := 0
    calls := s.calls + 1 }
  let back : Act Unit := modify fun now =>
    { now with
      arguments := s.arguments
      optionIndex := s.optionIndex
      optionPlace := s.optionPlace
      loops := s.loops
      calls := s.calls
      skip := match now.skip with
        | .leaveFunction _ => .none
        | skip => skip }
  andFinally (do
    let _ ← r.run { isTested := mode.isTested } body) back
  return (← get).status

/-- Runs a program, in a process of its own unless the interpreter has nothing to do after it. -/
def runProgram (mode : RunMode) (paths words : List String) : Act Nat := do
  if mode.isLast && !(← get).hasTraps then becomeProgram paths words
  let number ← fork fun s => do
    let (_, s) ← ((becomeProgram paths words : Act Unit).run).run s
    return s.status
  awaitAll [number]

/-- Runs a command whose words, redirections and assignments have been looked after. -/
def runWords (r : Runner) (mode : RunMode) (b : Beginning) (words : List String) : Act Nat := do
  match words with
  | [] => return (← get).outputStatus
  | name :: rest =>
    let isSpecial := b.isSpecial = some true
    if b.utility = some name then return ← runUtility r mode isSpecial name rest
    match ← meaningOf b.functions b.searchPath name with
    | .function body => callFunction r mode body rest
    | .utility => runUtility r mode isSpecial name rest
    | .program paths => runProgram mode paths words
    | .unknown e =>
      warn (name ++ ": " ++ programWording e)
      modify fun s => { s with status := 127 }
      return 127

/-- The descriptor of messages about commands while redirections are in force. -/
def traceTarget : Act Nat := do
  match ((← get).former.headD []).lookup 2 with
  | some (.moved fd) => return fd
  | _ => return 2

/-- Does something between the beginning and the end of redirections. -/
def whileRedirecting (x : Expander) (targets : List (Nat × Target)) (keeps : Bool)
    (fails : Nat → Act Nat) (a : Act Nat) : Act Nat := do
  beginRedirecting
  tryCatch (do
    let status ← match ← redirectSafely x targets with
      | some status => fails status
      | none => a
    endRedirecting keeps
    return status) fun e => do
      endRedirecting false
      throw e

def runSimple (r : Runner) (mode : RunMode) (assignments words : List Word)
    (redirections : List Redirection) : Act Nat := do
  let x := expander r
  modify fun s => { s with outputStatus := 0 }
  let (fields, rest) ← firstFields x words
  let start : Beginning := { words := { fields, rest } }
  let b ← if fields.isEmpty then pure start else beginFor x roundLimit start
  let assigns := (b.utility.bind Utility.named?).any Utility.assigns
  let later ← remainingFields x assigns b.words.rest
  let all := b.words.fields ++ later
  let isExec := b.utility = some execName
  let targets ← redirections.mapM (targetOf x)
  let work : Act Nat := whileRedirecting x targets isExec
    (fun status => do
      modify fun s => { s with status }
      if b.isSpecial = some true then throw .error
      return status) do
      let trace ← traceTarget
      modify fun s => { s with traceDescriptor := trace }
      let given ← assignAll x b.hides (isExec && 1 < all.length) assignments
      traceCommand x (given ++ b.words.passed ++ all)
      runWords r mode b all
  if b.hides then whileHiding work else work

end Act

end Script

end ShellPipeline
