import ShellPipeline.Pipeline.Basic
import ShellPipeline.Run.Resolve

/-!
# Running a pipeline

Stages are started from left to right. From one to the next only the read end of a pipe is carried
over; all else that a stage is connected to is closed as soon as its process has been created. The
first fault ends the starting. Then every process that was started is waited for, from left to
right. A fault of starting comes before a fault of waiting for the last stage, and that before the
status of the last stage.
-/

namespace ShellPipeline

/-- What came of starting stages. -/
structure Launched (η : Type) where
  /-- The processes that were started, with the positions of their stages. -/
  processes : List (Nat × η) := []
  /-- A pipe that nobody was started to read. -/
  leftover : Option Nat := none
  fault : Option Fault := none
deriving Repr

namespace Shell

variable {σ α η : Type} [Host σ α η]

/-- Creates the process of a stage that is connected. The shell closes what the stage is connected
to whether or not there is a process now. -/
def spawn (s : Shell σ α η) (index : Nat) (stage : Stage) (r : Resolved) :
    Except Fault η × Shell σ α η :=
  let launch : Launch α := ⟨index, stage, r, s.descriptors⟩
  let (outcome, host) := Host.spawn launch s.host
  (outcome, ({ s with host }.note (.spawn launch outcome)).closeAll r.wiring.descriptors)

/-- Waits for the process of the stage at a position. -/
def wait (s : Shell σ α η) (index : Nat) (process : η) : Except Fault Exit × Shell σ α η :=
  let (outcome, host) := Host.wait index process s.host
  (outcome, { s with host }.note (.wait index process outcome))

/-- Starts the stage at a position. Answers its process and the read end that is kept for the next
stage. -/
def launch (s : Shell σ α η) (index : Nat) (stage : Stage) (incoming : Option Nat) :
    Except Fault (η × Option Nat) × Shell σ α η :=
  match s.resolve index stage incoming with
  | (.error f, s) => (.error f, s)
  | (.ok r, s) =>
    match s.spawn index stage r with
    | (.error f, s) => (.error f, s.closeAll r.downstream.toList)
    | (.ok process, s) => (.ok (process, r.downstream), s)

def launchAll (s : Shell σ α η) (index : Nat) (incoming : Option Nat) :
    List Stage → Launched η × Shell σ α η
  | [] => ({ leftover := incoming }, s)
  | stage :: rest =>
    match s.launch index stage incoming with
    | (.error f, s) => ({ fault := some f }, s.warn (.aborting index stage.program f))
    | (.ok (process, downstream), s) =>
      let (l, s) := s.launchAll (index + 1) downstream rest
      ({ l with processes := (index, process) :: l.processes }, s)

/-- Waits for processes. Answers what came of the one at the position `last`, if it is among them,
and warns about the others that could not be waited for. -/
def reapAll (s : Shell σ α η) (last : Nat) :
    List (Nat × η) → Option (Except Fault Exit) × Shell σ α η
  | [] => (none, s)
  | (index, process) :: rest =>
    match s.wait index process with
    | (outcome, s) =>
      if index = last then
        let (later, s) := s.reapAll last rest
        (later.or (some outcome), s)
      else
        match outcome with
        | .error f => (s.warn (.notReaped index f)).reapAll last rest
        | .ok _ => s.reapAll last rest

def run (s : Shell σ α η) (p : Pipeline) : Except Fault Status × Shell σ α η :=
  let (l, s) := s.launchAll 0 none p.stages
  let (final, s) := (s.closeAll l.leftover.toList).reapAll p.lastIndex l.processes
  match l.fault, final with
  | some f, _ => (.error f, s)
  | none, some (.error f) => (.error f, s)
  | none, some (.ok exit) => (.ok exit.status, s)
  | none, none => (.ok failureStatus, s)

end Shell

end ShellPipeline
