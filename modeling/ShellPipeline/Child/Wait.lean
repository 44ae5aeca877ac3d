import ShellPipeline.Run.Exit
import ShellPipeline.System.Errno

/-!
# Waiting for a process

The system answers a wait with a report on the process or with an error. Reports of a process that
goes on and interrupted waits are passed over.
-/

namespace ShellPipeline

/-- What the system answers to one wait. -/
inductive WaitAnswer where
  | exited (code : Status)
  | signaled (signal : Int32)
  | stopped (signal : Int32)
  /-- The process goes on after a stop. -/
  | continued
  | running
  | failed (cause : Errno)
deriving DecidableEq, Repr

def WaitAnswer.verdict? : WaitAnswer → Option (Except Errno Exit)
  | exited code => some (.ok (.exited code))
  | signaled signal => some (.ok (.signaled signal))
  | stopped _ => none
  | continued => none
  | running => none
  | failed cause => if cause = .interrupted then none else some (.error cause)

/-- Waits until an answer settles the matter. Answers the verdict and the answers that were not
asked for. There is no child left when there are no more answers. -/
def awaitExit : List WaitAnswer → Except Errno Exit × List WaitAnswer
  | [] => (.error .noChild, [])
  | a :: rest => match a.verdict? with
    | none => awaitExit rest
    | some v => (v, rest)

end ShellPipeline
