import ShellPipeline.Script.Job

/-!
# Running texts

The commands of a text are read and run one line after the other. A file is read piece by piece, so
that a command can still change what comes after it. When signals arrived, the texts of their traps
are run, and the text of the last trap is run when an interpreter ends.
-/

namespace ShellPipeline

namespace Script

/-- The number of bytes of a script that are read at once. -/
def scriptBlock : Nat := 8192

namespace Act

def onInput (f : Input → Input) : Act Unit :=
  modify fun s => match s.inputs with
    | [] => s
    | i :: rest => { s with inputs := f i :: rest }

/-- Adds a line of what was read to what is looked at. -/
def lookAtLine : Act Unit := do
  let i := ((← get).inputs.head?).getD { source := { rest := [] } }
  let line := i.ahead.takeWhile (· != '\n')
  let line := if line.length < i.ahead.length then line ++ ['\n'] else line
  if (← get).has 'v' then writeTo standardError (String.ofList line)
  onInput fun i =>
    { i with
      ahead := i.ahead.drop line.length
      source := { i.source with rest := i.source.rest ++ line } }

def endInput : Act Unit :=
  onInput fun i => { i with ended := true, source := { i.source with ended := true } }

def readMore : Act Unit := do
  match (← get).inputs.head? with
  | none => return
  | some i =>
    if !i.ahead.isEmpty then lookAtLine
    else match i.fd with
      | none => endInput
      | some fd =>
        match ← task (Task.read fd scriptBlock) with
        | .error e =>
          if e = .interrupted then noteSignals else endInput
        | .ok bytes =>
          if bytes.isEmpty then endInput
          else
            onInput fun i => { i with ahead := charsOfBytes (bytes.filter (· != 0)) }
            lookAtLine

/-- Reads the commands of the next line. Answers nothing at the end. -/
def nextCommand : Act (Option (Option Command)) := do
  keepOn (m := Act) (fun _ => do
    let s ← get
    match s.inputs.head? with
    | none => return (none, false)
    | some i =>
      match (s.reading i.source).next with
      | .ended => return (none, false)
      | .incomplete =>
        readMore
        return (none, true)
      | .fault line message =>
        modify fun s => { s with line }
        fail message
      | .command c r =>
        set { s with
          documents := r.documents ++ s.documents
          nextDocument := r.nextDocument }
        onInput fun i => { i with source := r.source }
        return (some c, false)) roundLimit none

def whileReading {α : Type} (i : Input) (a : Act α) : Act α := do
  modify fun s => { s with inputs := i :: s.inputs }
  andFinally a (modify fun s => { s with inputs := s.inputs.drop 1 })

def runInput (r : Runner) (isTested : Bool) : Act Nat :=
  keepOn (m := Act) (fun status => do
    match ← nextCommand with
    | none => return (status, false)
    | some none => return (status, true)
    | some (some c) =>
      let status ← r.run { isTested } c
      return (status, (← get).skip = .none)) roundLimit 0

def runText (r : Runner) (isTested : Bool) (text : String) : Act Nat :=
  whileReading { source := { rest := text.toList } } (runInput r isTested)

/-- Runs the commands of a file, which a function call in it can leave. -/
def runFile (r : Runner) (i : Input) : Act Nat :=
  whileReading i do
    let status ← runInput r false
    modify fun s => match s.skip with
      | .leaveFunction _ => { s with skip := .none }
      | _ => s
    return status

def runTrap (r : Runner) (signal : Signal) (status : Nat) : Act Unit := do
  modify fun s => { s with pending := s.pending.filter (· != signal) }
  match (← get).traps.lookup signal with
  | none => return
  | some text =>
    let _ ← runText r false text
    modify fun s => if s.skip = .leaveFunction false then s else { s with status }

def runTraps (r : Runner) : Act Unit := do
  let s ← get
  if s.pending.isEmpty then return
  let former := s.finalStatus
  let status := former.getD s.status
  set { s with finalStatus := some status }
  for signal in s.pending.mergeSort (· ≤ ·) do
    if (← get).skip = .none then runTrap r signal status
  modify fun s => { s with finalStatus := former }

def runLastTrap (r : Runner) : Act Unit := do
  let s ← get
  if let some text := s.traps.lookup 0 then
    set { s with traps := s.traps.filter (·.1 != 0), skip := .none }
    let _ ← runText r false text
    modify fun s => { s with status := s.finalStatus.getD s.status }

end Act

def State.stopped (s : State) (e : Stop) : State :=
  let status := if e = .exit then s.finalStatus.getD s.status else s.status
  { s with status, finalStatus := none, skip := .none }

/-- Ends an interpreter, after what it does at its end. -/
def finish (r : Runner) (s : State) : Task Nat := do
  let s := { s with finalStatus := some s.status }
  let (outcome, s) ← ((do
    Act.runLastTrap r
    Act.flush : Act Unit).run).run s
  return match outcome with
    | .ok () => s.status
    | .error e => (s.stopped e).status

def live (r : Runner) (a : Act Nat) (s : State) : Task Nat := do
  let (outcome, s) ← (a.run).run s
  match outcome with
  | .ok status => finish r { s with status }
  | .error e => finish r (s.stopped e)

end Script

end ShellPipeline
