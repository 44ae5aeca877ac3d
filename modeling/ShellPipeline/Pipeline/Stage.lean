/-!
# Stages

A stage is one command of a pipeline: the words of the command, the file it reads instead of what
it would otherwise read, and where its output goes.
-/

namespace ShellPipeline

/-- What happens to the content that a file already has when a stage writes into it. -/
inductive WriteMode where
  | truncate
  | append
deriving DecidableEq, Repr

/-- Where the standard output of a stage goes. -/
inductive Output where
  /-- To the standard output of the shell. -/
  | inherit
  /-- Into a pipe that the next stage reads. -/
  | pipe
  | file (mode : WriteMode) (path : String)
deriving DecidableEq, Repr

namespace Output

/-- The path of the file that receives the output, if it goes into a file. -/
def target? : Output → Option String
  | file _ path => some path
  | _ => none

/-- The file that receives the output, with what happens to the content it already has. -/
def file? : Output → Option (WriteMode × String)
  | file mode path => some (mode, path)
  | _ => none

def isPipe (o : Output) : Bool :=
  o = pipe

end Output

/-- One command of a pipeline. -/
structure Stage where
  /-- The words of the command, its program first. -/
  argv : List String
  /-- The file it reads instead of its pipe or the standard input of the shell. -/
  input : Option String := none
  output : Output := .inherit
deriving DecidableEq, Repr

namespace Stage

def ofArgv (argv : List String) : Stage :=
  { argv }

def withInput (s : Stage) (path : String) : Stage :=
  { s with input := some path }

def withOutput (s : Stage) (output : Output) : Stage :=
  { s with output }

def program (s : Stage) : String :=
  s.argv.headD ""

/-- Whether the stage names a file to read or to write. -/
def redirected (s : Stage) : Bool :=
  s.input.isSome || s.output.target?.isSome

end Stage

end ShellPipeline
