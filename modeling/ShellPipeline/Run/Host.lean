import ShellPipeline.Child.Rewire
import ShellPipeline.Pipeline.Stage
import ShellPipeline.Run.Exit
import ShellPipeline.Run.Fault

/-!
# The system below the shell

A host is what the shell asks to open files, to make pipes and to start and await processes. Any
request may fail. Nothing else is assumed of a host, so what holds of a run over every host holds
whatever the system does.
-/

namespace ShellPipeline

/-- What a new process is made from. -/
structure Launch (α : Type) where
  index : Nat
  stage : Stage
  /-- How the stage is connected, and what the shell keeps of its pipe. -/
  resolved : Resolved
  /-- The descriptors of the shell, of which the process gets a copy. -/
  descriptors : Descriptors α
deriving Repr

/-- The descriptors of a new process when its program begins. -/
def Launch.childDescriptors {α : Type} (l : Launch α) : Except Errno (Descriptors α) :=
  l.descriptors.rewire l.resolved

/-- A system whose states are `σ`, whose open objects are `α` and whose processes are `η`. -/
class Host (σ : Type) (α η : outParam Type) where
  openInput : String → σ → Except PathFault α × σ
  /-- Opens a file for writing, after creating it if it does not exist. -/
  openOutput : WriteMode → String → σ → Except PathFault α × σ
  /-- Makes a pipe. Answers its read end and its write end. -/
  makePipe : σ → Except Errno (α × α) × σ
  /-- Keeps an object from being passed on to programs. -/
  protect : α → σ → Except Errno Unit × σ
  /-- Takes notice that the shell no longer holds an object. -/
  release : α → σ → σ
  spawn : Launch α → σ → Except Fault η × σ
  /-- Waits for the process of the stage at a position. -/
  wait : Nat → η → σ → Except Fault Exit × σ

end ShellPipeline
