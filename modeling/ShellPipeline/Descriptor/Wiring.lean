/-!
# Wiring

How the standard input and output of one stage are connected: left as the shell has them, or
replaced by one end of a pipe or by a file that the shell has open.
-/

namespace ShellPipeline

/-- One direction of the standard streams of a stage. -/
inductive Connection where
  | inherit
  | pipe (fd : Nat)
  | file (fd : Nat)
deriving DecidableEq, Repr

def Connection.descriptor? : Connection → Option Nat
  | inherit => none
  | pipe fd => some fd
  | file fd => some fd

/-- Both standard streams of a stage. -/
structure Wiring where
  stdin : Connection := .inherit
  stdout : Connection := .inherit
deriving DecidableEq, Repr

def Wiring.descriptors (w : Wiring) : List Nat :=
  w.stdin.descriptor?.toList ++ w.stdout.descriptor?.toList

/-- A wiring together with the read end of the pipe that the stage writes, which is kept for the
next stage. -/
structure Resolved where
  wiring : Wiring
  /-- What is kept for the next stage. -/
  downstream : Option Nat := none
deriving DecidableEq, Repr

end ShellPipeline
