import ShellPipeline.Descriptor.Table
import ShellPipeline.Descriptor.Wiring
import ShellPipeline.System.Errno

/-!
# Descriptors of a new process

A new process begins with a copy of the table of the shell. Before it runs its program it drops
the read end that the shell keeps for the next stage, and moves its own connections to the
standard descriptors. Nothing here relies on descriptors being closed when the program begins.
-/

namespace ShellPipeline

def standardInput : Nat := 0

def standardOutput : Nat := 1

def standardError : Nat := 2

namespace Descriptors

variable {α : Type}

/-- Moves a descriptor to another number. A descriptor that is there already stays. -/
def move (d : Descriptors α) (fd target : Nat) : Except Errno (Descriptors α) :=
  if fd = target then .ok d
  else match d.duplicate? fd target with
    | none => .error .badDescriptor
    | some d' => .ok (d'.close fd)

def move? (d : Descriptors α) (fd : Option Nat) (target : Nat) : Except Errno (Descriptors α) :=
  match fd with
  | none => .ok d
  | some fd => d.move fd target

def close? (d : Descriptors α) (fd : Option Nat) : Descriptors α :=
  fd.elim d d.close

/-- The table with which the program of a stage begins. -/
def rewire (d : Descriptors α) (r : Resolved) : Except Errno (Descriptors α) :=
  match (d.close? r.downstream).move? r.wiring.stdin.descriptor? standardInput with
  | .error e => .error e
  | .ok d' => d'.move? r.wiring.stdout.descriptor? standardOutput

end Descriptors

end ShellPipeline
