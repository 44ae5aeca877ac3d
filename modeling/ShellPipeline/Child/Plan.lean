import ShellPipeline.Pipeline.Stage
import ShellPipeline.Run.Fault
import ShellPipeline.Text.Utf8

/-!
# Argument vectors

A program receives its words as sequences of bytes that end with a NUL. A word that holds a NUL
itself cannot be passed, and a program without words cannot be run, so both are refused before a
process is created.
-/

namespace ShellPipeline

/-- The bytes of a word with the NUL that ends it. -/
def terminated (word : String) : Bytes :=
  utf8 word ++ [0]

/-- The words of a program as the system takes them, or the first word that holds a NUL. -/
def terminatedWords (argv : List String) : Except String (List Bytes) :=
  match argv.find? hasNul with
  | some word => .error word
  | none => .ok (argv.map terminated)

/-- The vector of a program, which ends with a null entry. -/
structure ArgumentVector where
  entries : List (Option Bytes)
deriving DecidableEq, Repr

namespace ArgumentVector

def ofStage (index : Nat) (stage : Stage) : Except Fault ArgumentVector :=
  if stage.argv.isEmpty then .error (.emptyArgv index)
  else match terminatedWords stage.argv with
    | .error word => .error (.nulInArgument index word)
    | .ok words => .ok ⟨words.map some ++ [none]⟩

/-- The words that a program finds in a vector: the entries before the first null entry, each up
to its first NUL. -/
def arguments (v : ArgumentVector) : List Bytes :=
  ((v.entries.takeWhile Option.isSome).filterMap id).map (List.takeWhile (· ≠ 0))

end ArgumentVector

end ShellPipeline
