/-!
# Ends of processes

A process exits with a code or is ended by a signal. The shell keeps one status for both.
-/

namespace ShellPipeline

abbrev Status := Int32

/-- The status of everything that did not run to an exit code of its own. -/
def failureStatus : Status := -1

/-- How a process ended. -/
inductive Exit where
  | exited (code : Status)
  | signaled (signal : Int32)
deriving DecidableEq, Repr

def Exit.status : Exit → Status
  | exited code => code
  | signaled _ => failureStatus

end ShellPipeline
