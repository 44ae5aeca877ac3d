import ShellPipeline.System.Errno
import ShellPipeline.Text.Quoted

/-!
# Faults of a run

A fault keeps a run from starting a stage or from waiting for one. A program that cannot be
executed is no fault: it shows in the exit of its process.
-/

namespace ShellPipeline

/-- Why a stage could not be started or waited for. -/
inductive Fault where
  | openInput (path : String) (cause : PathFault)
  | openOutput (path : String) (cause : PathFault)
  /-- The pipe into the next stage cannot be made. -/
  | pipe (stage : Nat) (cause : Errno)
  | fork (stage : Nat) (cause : Errno)
  | wait (stage : Nat) (cause : Errno)
  | emptyArgv (stage : Nat)
  /-- A word holds a NUL, which ends a word for the system. -/
  | nulInArgument (stage : Nat) (argument : String)
deriving DecidableEq, Repr

namespace Fault

def message : Fault → String
  | openInput path cause => "cannot open input file " ++ path ++ ": " ++ cause.message
  | openOutput path cause => "cannot open output file " ++ path ++ ": " ++ cause.message
  | pipe i cause => "stage " ++ decimal i ++ ": cannot create pipe: " ++ cause.processMessage
  | fork i cause => "stage " ++ decimal i ++ ": cannot fork: " ++ cause.processMessage
  | wait i cause => "waiting for stage " ++ decimal i ++ ": " ++ cause.processMessage
  | emptyArgv i => "stage " ++ decimal i ++ ": empty argument list"
  | nulInArgument i a =>
    "stage " ++ decimal i ++ ": argument contains a NUL byte: " ++ quoted a

def fromSystem : Fault → Bool
  | emptyArgv _ => false
  | nulInArgument _ _ => false
  | _ => true

end Fault

end ShellPipeline
