import ShellPipeline.Run.Exit
import ShellPipeline.System.Errno

/-!
# Processes without a program

A process whose program cannot be executed says why and exits with a code of its own. A program
that does not exist has a message and a code apart.
-/

namespace ShellPipeline

/-- What a process says when it cannot run its program, and the code it exits with. -/
structure ChildFailure where
  /-- The parts of the message, each of which is written apart. -/
  message : List String
  code : Status
deriving DecidableEq, Repr

namespace ChildFailure

/-- The code of a program that does not exist. -/
def notFoundCode : Status := 127

/-- The code of a program that cannot be executed. -/
def cannotExecuteCode : Status := 126

/-- The failure to get a process ready for its program. -/
def ofErrno (program : String) (e : Errno) : ChildFailure :=
  ⟨["pipesh: " ++ program ++ ": ", e.processWording, "\n"], cannotExecuteCode⟩

def ofExecute (program : String) (e : Errno) : ChildFailure :=
  if e = .noEntry then ⟨["pipesh: command not found: " ++ program ++ "\n"], notFoundCode⟩
  else ofErrno program e

end ChildFailure

end ShellPipeline
