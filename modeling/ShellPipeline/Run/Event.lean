import ShellPipeline.Run.Host

/-!
# Events of a run

A shell notes what it asks of its host, in order, and what it warns about. The notes decide
nothing; they are what statements about a run speak of.
-/

namespace ShellPipeline

/-- What a shell warns about while it runs a pipeline. -/
inductive Warning where
  /-- No more stages are started because this one could not be. -/
  | aborting (stage : Nat) (program : String) (cause : Fault)
  /-- A stage before the last could not be waited for. -/
  | notReaped (stage : Nat) (cause : Fault)
deriving DecidableEq, Repr

/-- What a shell did. -/
inductive Event (α η : Type) where
  /-- Opened a file for reading, under a descriptor if that succeeded. -/
  | openInput (path : String) (outcome : Except PathFault Nat)
  /-- Opened a file for writing, under a descriptor if that succeeded. -/
  | openOutput (mode : WriteMode) (path : String) (outcome : Except PathFault Nat)
  /-- Made the pipe of a stage, with descriptors for the read end and the write end. -/
  | makePipe (stage : Nat) (outcome : Except Errno (Nat × Nat))
  | close (fd : Nat)
  | spawn (launch : Launch α) (outcome : Except Fault η)
  | wait (index : Nat) (process : η) (outcome : Except Fault Exit)
  | warn (w : Warning)

def Event.warnings {α η : Type} (events : List (Event α η)) : List Warning :=
  events.filterMap fun
    | .warn w => some w
    | _ => none

end ShellPipeline
