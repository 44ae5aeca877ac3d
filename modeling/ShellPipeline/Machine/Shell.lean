import ShellPipeline.CommandLine.Start
import ShellPipeline.Machine.Host
import ShellPipeline.World.Rehearsal

/-!
# Shells on machines

A shell begins with its standard streams under the first three descriptors, and with nothing else
open.
-/

namespace ShellPipeline

def World.standardDescriptors (w : World) : Descriptors Channel :=
  ⟨[some w.input, some .output, some .errors]⟩

/-- A shell that begins on a host with a world. -/
def Shell.ofHost {σ η : Type} (host : σ) (w : World) : Shell σ Channel η :=
  { descriptors := w.standardDescriptors, host }

/-- Runs a shell on a machine with a prompt from the environment and with arguments. Answers the
exit code and the machine after all that the shell started has fallen silent. -/
def Machine.runShell (m : Machine) (prompt : Option String) (arguments : List String) :
    UInt8 × Machine :=
  let session : Session Machine Channel Nat := { shell := .ofHost m m.world }
  let (code, session) := session.startWith prompt arguments
  (code, session.shell.host.runOut)

end ShellPipeline
