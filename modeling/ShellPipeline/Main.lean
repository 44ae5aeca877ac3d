import ShellPipeline.Machine.Shell
import ShellPipeline.World.Setup

/-!
# The program

The shell of a machine that has the tools and an empty home directory. What the program reads is
the standard input of the machine, and what the machine writes is what the program writes.
-/

namespace ShellPipeline

/-- Reads to the end of the input, after bytes that were read. -/
partial def readToEnd (input : IO.FS.Stream) (done : ByteArray) : IO ByteArray := do
  let piece ← input.read 65536
  if piece.isEmpty then return done else readToEnd input (done ++ piece)

end ShellPipeline

open ShellPipeline in
/-- Runs the shell with the arguments and the environment of the program. -/
def main (arguments : List String) : IO UInt32 := do
  let prompt ← IO.getEnv "PIPESH_PROMPT"
  let bytes ← readToEnd (← IO.getStdin) .empty
  let world := (World.setUp Tool.names "/home/user" {}).feed bytes.toList
  let (code, machine) := (Machine.ofWorld world).runShell prompt arguments
  (← IO.getStdout).write ⟨machine.world.output.toBytes.toArray⟩
  (← IO.getStderr).write ⟨machine.world.errors.toBytes.toArray⟩
  return code.toUInt32
