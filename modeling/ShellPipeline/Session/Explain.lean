import ShellPipeline.Pipeline.Explain
import ShellPipeline.Session.Dispatch

/-!
# Explaining a line

Instead of carrying out a line, the shell shows the pipeline that was read from it.
-/

namespace ShellPipeline

namespace Session

variable {σ α η : Type} [Console σ]

/-- Shows the pipeline of a line. Nothing is run, and a blank line keeps the previous status. -/
def explain (line : String) (last : Status) (s : Session σ α η) : Outcome × Session σ α η :=
  match parse line with
  | .error e => s.complainInvalid e
  | .ok none => (⟨last, false⟩, s)
  | .ok (some p) => (⟨0, false⟩, s.print (p.explain ++ "\n"))

end Session

end ShellPipeline
