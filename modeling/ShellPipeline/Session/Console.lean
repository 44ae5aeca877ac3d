import ShellPipeline.System.Errno
import ShellPipeline.Text.Utf8

/-!
# Where a session takes place

The standard streams and the working directory of the shell. Nothing is assumed of them, so what
holds of a session over every console holds wherever the shell runs.
-/

namespace ShellPipeline

/-- The surroundings of a shell, with states `σ`. -/
class Console (σ : Type) where
  print : String → σ → σ
  report : String → σ → σ
  /-- Reads at most so many bytes from standard input, and none at its end. -/
  read : Nat → σ → Bytes × σ
  isTerminal : σ → Bool
  /-- A bound on the number of reads that can still give bytes. -/
  pending : σ → Nat
  enter : String → σ → Except PathFault Unit × σ
  directory : σ → Except Errno String
  /-- The home directory, if it is known. -/
  home : σ → Option String

end ShellPipeline
