import ShellPipeline.Script.Simple

/-!
# Running commands

Commands are run one within the other. After a command the interpreter looks whether signals have
arrived, and ends if a failure ends it.
-/

namespace ShellPipeline

namespace Script

namespace Act

def atLine (line : Nat) : Act Unit :=
  modify fun s => { s with line }

def lookAfterSignals (r : Runner) : Act Unit := do
  noteSignals
  runTraps r

def isSkipping : Act Bool := do
  return (← get).skip != .none

/-- Counts a loop around the commands that are passed over. Answers why it goes on or ends. -/
def passLoop : Act Skip := do
  let s ← get
  if s.skip != .leaveLoop && s.skip != .nextRound then return s.skip
  if s.skipCount ≤ 1 then
    set { s with skip := .none, skipCount := 0 }
    return s.skip
  set { s with skipCount := s.skipCount - 1 }
  return .leaveLoop

def insideLoop (a : Act Nat) : Act Nat := do
  modify fun s => { s with loops := s.loops + 1 }
  let status ← a
  modify fun s => { s with loops := s.loops - 1 }
  return status

def runEach (r : Runner) (mode : RunMode) (name : String) (words : List Word) (body : Command) :
    Act Nat := do
  let fields ← remainingFields (expander r) false words
  insideLoop do
    let (_, status) ← keepOn (m := Act) (fun (values, status) => do
      match values with
      | [] => return (([], status), false)
      | value :: rest =>
        setVariable name value {}
        let status ← r.run { isTested := mode.isTested } body
        let skip ← passLoop
        return ((rest, status), skip = .none || skip = .nextRound)) roundLimit (fields, 0)
    return status

/-- Runs a command as long as a test succeeds, or as long as it fails. -/
def runLoop (r : Runner) (mode : RunMode) (untilSuccess : Bool) (test body : Command) : Act Nat :=
  insideLoop <| keepOn (m := Act) (fun status => do
    let tested ← r.run { isTested := true } test
    let skip ← passLoop
    if skip != .none then
      let leaves := match skip with
        | .leaveFunction _ => true
        | _ => false
      return (if leaves then tested else status, skip = .nextRound)
    if (tested = 0) = untilSuccess then return (status, false)
    let status ← r.run { isTested := mode.isTested } body
    let skip ← passLoop
    return (status, skip = .none || skip = .nextRound)) roundLimit 0

def matchesAny (x : Expander) (text : List Char) : List Word → Act Bool
  | [] => pure false
  | w :: rest => do
    let p := Piece.toPattern (← x.expand { tilde := true } w)
    if p.isMatch text then return true
    matchesAny x text rest

/-- Runs the command of the first pattern that matches a text. -/
def runCases (r : Runner) (mode : RunMode) (text : List Char) : List Case → Act Nat
  | [] => pure 0
  | (patterns, body) :: rest => do
    if ← isSkipping then return 0
    if ← matchesAny (expander r) text patterns then
      match body with
      | none => return 0
      | some c => if ← isSkipping then return 0 else r.run mode c
    else runCases r mode text rest

/-- Runs a command in a process of its own, which is waited for. -/
def runSubshell (r : Runner) (mode : RunMode) (c : Command) (rs : List Redirection) : Act Nat := do
  let x := expander r
  let targets ← rs.mapM (targetOf x)
  let inner : Act Nat := do
    redirectAll x false targets
    r.run { mode with isLast := true } c
  if mode.isLast && !(← get).hasTraps then inner
  else
    let number ← fork (live r do
      becomeCopy .foreground
      inner)
    awaitAll [number]

/-- Runs a command in a process that is not waited for. -/
def runBackground (r : Runner) (c : Command) (rs : List Redirection) : Act Nat := do
  let x := expander r
  let targets ← rs.mapM (targetOf x)
  let number ← fork (live r do
    becomeCopy (.background true)
    redirectAll x false targets
    r.run { isLast := true } c)
  addJob [number]
  return 0

/-- Remembers where the program of a command is before it is run elsewhere. -/
def lookAhead (c : Command) : Act Unit := do
  match c with
  | .simple _ _ (w :: _) _ =>
    match Word.text? w with
    | some cs =>
      if isName cs then let _ ← meaningOf true none (String.ofList cs)
    | none => return
  | _ => return

/-- Starts the commands of a pipeline after those that are running. Answers the numbers of the
processes. -/
def startPiped (r : Runner) (mode : RunMode) (background : Bool) :
    List Command → Option Nat → List Nat → Act (List Nat)
  | [], _, done => pure done.reverse
  | c :: rest, previous, done => do
    lookAhead c
    let ends ← if rest.isEmpty then pure none else do pure (some (← makePipe))
    let number ← fork (live r do
      becomeCopy (if background then .background done.isEmpty else .foreground)
      if let some (input, _) := ends then let _ ← call (.close input)
      if let some fd := previous then
        if fd != 0 then become 0 fd true
      if let some (_, output) := ends then
        if 1 < output then become 1 output true
      r.run { mode with isLast := true } c)
    if let some fd := previous then let _ ← call (.close fd)
    if let some (_, output) := ends then let _ ← call (.close output)
    startPiped r mode background rest (ends.map Prod.fst) (number :: done)

/-- Runs commands of which each one reads what the one before writes. -/
def runPipeline (r : Runner) (mode : RunMode) (cs : List Command) (background : Bool) :
    Act Nat := do
  let numbers ← startPiped r mode background cs none []
  if background then
    addJob numbers
    return 0
  awaitAll numbers

/-- Ends the interpreter after a failure that nothing looks at if failures end it. -/
def endAfter (mode : RunMode) (status : Nat) : Act Unit := do
  if status != 0 && !mode.isTested && (← get).has 'e' then throw .ended

def runRedirected (r : Runner) (mode : RunMode) (c : Command) (rs : List Redirection) :
    Act Nat := do
  let x := expander r
  let targets ← rs.mapM (targetOf x)
  whileRedirecting x targets false (fun status => do
    modify fun s => { s with status }
    endAfter mode status
    return status) (r.run { isTested := mode.isTested } c)

def defineFunction (name : String) (body : Command) : Act Unit :=
  modify fun s =>
    let others := s.functions.filter (·.1 != name)
    { s.forget name with functions := others ++ [(name, body)] }

def runThen (r : Runner) (mode : RunMode) (first : Command) (isTested : Bool)
    (goesOn : Nat → Bool) (second : Command) : Act Nat := do
  let status ← r.run { isTested } first
  if !goesOn status || (← isSkipping) then return status
  r.run mode second

def runChoice (r : Runner) (mode : RunMode) (test yes : Command) (no : Option Command) :
    Act Nat := do
  let tested ← r.run { isTested := true } test
  if ← isSkipping then return tested
  if tested = 0 then r.run mode yes
  else match no with
    | some c => r.run mode c
    | none => return 0

def runCommand (r : Runner) (mode : RunMode) (c : Command) : Act Nat := do
  match c with
  | .simple line assignments words redirections =>
    atLine line
    runSimple r mode assignments words redirections
  | .pipeline cs background => runPipeline r mode cs background
  | .redirected line c rs =>
    atLine line
    runRedirected r mode c rs
  | .subshell line c rs =>
    atLine line
    runSubshell r mode c rs
  | .background line c rs =>
    atLine line
    runBackground r c rs
  | .both first second => runThen r mode first true (· = 0) second
  | .either first second => runThen r mode first true (· != 0) second
  | .sequence first second => runThen r mode first mode.isTested (fun _ => true) second
  | .choose test yes no => runChoice r mode test yes no
  | .loop untilSuccess test body => runLoop r mode untilSuccess test body
  | .each line name words body =>
    atLine line
    runEach r mode name words body
  | .cases line w cs =>
    atLine line
    let text ← (expander r).expand { tilde := true } w
    runCases r mode (Piece.text text) cs
  | .define name _ body =>
    defineFunction name body
    return 0
  | .opposite c =>
    let status ← r.run { isTested := true } c
    if ← isSkipping then return status
    return if status = 0 then 1 else 0

/-- Whether the failure of a command can end the interpreter. -/
def canEnd (c : Command) : Bool :=
  match c with
  | .simple _ _ _ _ | .pipeline _ _ | .subshell _ _ _ | .background _ _ _ => true
  | _ => false

/-- Runs a command, looks after signals before and after it, and ends if its failure ends the
interpreter. -/
def evaluate (r : Runner) (mode : RunMode) (c : Command) : Act Nat := do
  if (← get).has 'n' then return 0
  lookAfterSignals r
  let status ← runCommand r mode c
  modify fun s => { s with status }
  lookAfterSignals r
  if canEnd c then endAfter mode status
  return status

end Act

/-- The runner of commands with at most so many levels. -/
def runnerFor : Nat → Runner
  | 0 => ⟨fun _ _ => pure 0⟩
  | n + 1 => ⟨fun mode c => Act.evaluate (runnerFor n) mode c⟩

def runner : Runner :=
  runnerFor roundLimit

end Script

end ShellPipeline
