import ShellPipeline.Session.Console
import ShellPipeline.World.Requests

/-!
# The console of a world

The standard streams and the working directory that a world has for its shell.
-/

namespace ShellPipeline

namespace World

/-- Writes a text to the standard output of the shell. -/
def print (w : World) (text : String) : World :=
  { w with output := w.output.add (utf8 text) }

/-- Writes a text to the standard error of the shell. -/
def complain (w : World) (text : String) : World :=
  { w with errors := w.errors.add (utf8 text) }

/-- Reads at most so many bytes of the standard input of the shell. -/
def readInput (w : World) (count : Nat) : Bytes × World :=
  let (outcome, w) := w.read w.input count
  (outcome.toOption.getD [], w)

/-- A bound on the number of reads of the standard input that can still give bytes. -/
def pendingInput (w : World) : Nat :=
  match w.input with
  | .terminal => w.typed.flatten.length + w.typed.length
  | c => w.available c

instance : Console World where
  print text w := w.print text
  report text w := w.complain text
  read count w := w.readInput count
  isTerminal w := w.input = .terminal
  pending := pendingInput
  enter := World.enter
  directory w := w.tree.pathOf w.directory
  home w := w.home

end World

end ShellPipeline
