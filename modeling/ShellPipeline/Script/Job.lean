import ShellPipeline.Script.State

/-!
# Processes of an interpreter

An interpreter starts copies of itself and other programs, alone or several together, and waits for
them. It says so if one that it waits for was ended by a signal, unless by an interrupt or since
nobody reads what it writes.
-/

namespace ShellPipeline

namespace Script

def statusOf : Exit → Nat
  | .exited code => (code.toInt % 256).toNat
  | .signaled signal => 128 + signal.toNatClampNeg

/-- How a copy of an interpreter is used. -/
inductive CopyUse where
  | foreground
  /-- It is not waited for, and may have nothing to read. -/
  | background (readsNothing : Bool)
  | output
deriving DecidableEq, Repr

namespace Act

/-- Says what a signal does from now on, unless it was ignored from the beginning. -/
def applyTrap (signal : Signal) (action : Option String) : Act Unit := do
  let action := match action with
    | none => SignalAction.standard
    | some "" => .ignored
    | some _ => .caught
  let s ← get
  if s.ignored.contains signal then return
  let former ← call (.handle signal action)
  unless s.handled.contains signal do
    modify fun s => { s with handled := signal :: s.handled }
    if former = .ignored then
      modify fun s => { s with ignored := signal :: s.ignored }
      let _ ← call (.handle signal .ignored)

def forgetTraps : Act Unit := do
  let s ← get
  for (signal, action) in s.traps do
    if signal != 0 && action != "" then applyTrap signal none
  set { s with traps := s.traps.filter (·.2 = "") }

/-- Becomes a copy of an interpreter after its process was created. -/
def becomeCopy (u : CopyUse) : Act Unit := do
  let s ← get
  for i in s.inputs do
    if let some fd := i.fd then
      if fd != 0 then let _ ← call (.close fd)
  set { s with inputs := [], isCopy := true, pending := [], jobs := [], held := {} }
  forgetTraps
  match u with
  | .background readsNothing =>
    let _ ← call (.handle Signal.interrupt .ignored)
    let _ ← call (.handle 3 .ignored)
    if readsNothing then
      let _ ← call (.close 0)
      match ← call (.openFile "/dev/null" .reading) with
      | .ok _ => return
      | .error _ => fail "Can't open /dev/null"
  | _ => return

def fork (child : State → Task Nat) : Act Nat := do
  let s ← get
  match ← task (Task.fork (child s)) with
  | .ok number => return number
  | .error _ => fail "Cannot fork"

def noteExit (number : Nat) (exit : Exit) : Act Unit :=
  modify fun s =>
    let note (p : JobProcess) : JobProcess :=
      if p.number = number then { p with exit := some exit } else p
    { s with jobs := s.jobs.map fun j => { j with processes := j.processes.map note } }

/-- Waits for the end of any process that was started. -/
def awaitAny : Act (Option (Nat × Exit)) := do
  keepOn (m := Act) (fun _ => do
    match ← call (.awaitChild none true) with
    | .ok (some (number, exit)) =>
      noteExit number exit
      return (some (number, exit), false)
    | .ok none => return (none, false)
    | .error e =>
      if e != .interrupted then return (none, false)
      noteSignals
      return (none, true)) roundLimit none

def reportSignal (exit : Exit) : Act Unit := do
  match exit with
  | .exited _ => return
  | .signaled signal =>
    let signal := signal.toNatClampNeg
    if signal != Signal.interrupt && signal != Signal.brokenPipe then
      writeTo standardError (Signal.wording signal ++ "\n")

/-- Waits for processes that were started together. Answers the status of the last one. -/
def awaitAll (numbers : List Nat) : Act Nat := do
  let (_, status) ← keepOn (m := Act) (fun (left, status) => do
    match left with
    | [] => return (([], status), false)
    | left =>
      match ← awaitAny with
      | none => return (([], status), false)
      | some (number, exit) =>
        if !left.contains number then return ((left, status), true)
        reportSignal exit
        let status := if numbers.getLast? = some number then statusOf exit else status
        return ((left.filter (· != number), status), true)) roundLimit (numbers, 0)
  return status

/-- Adds a job. Jobs that have ended and were waited for make place for it. -/
def addJob (numbers : List Nat) : Act Unit :=
  modify fun s =>
    let jobs := match s.jobs.reverse.find? fun j => j.isDone && j.waited with
      | some old => s.jobs.filter (·.number != old.number)
      | none => s.jobs
    let free := (List.range (jobs.length + 1)).find? fun n => !jobs.any (·.number = n + 1)
    let job : ScriptJob :=
      { number := free.getD jobs.length + 1, processes := numbers.map fun number => { number } }
    { s with jobs := job :: jobs, lastBackground := numbers.getLast? }

end Act

end Script

end ShellPipeline
