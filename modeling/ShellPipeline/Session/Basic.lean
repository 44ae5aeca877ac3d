import ShellPipeline.Builtin.History
import ShellPipeline.Builtin.Registry
import ShellPipeline.Run.Pipeline
import ShellPipeline.Session.Console

/-!
# Sessions

A session is a shell with what it remembers between lines: the history, the bytes of its input
that were read ahead, and the calls of those builtins that keep a record.
-/

namespace ShellPipeline

/-- A recorded call of a builtin. -/
structure Call where
  words : List String
  last : Status
  /-- Whether the shell was already asked to exit. -/
  exit : Bool
deriving DecidableEq, Repr

/-- A shell with what it remembers. -/
structure Session (σ α η : Type) where
  shell : Shell σ α η
  history : History := {}
  /-- What was read ahead of the line that is being carried out. -/
  ahead : Bytes := []
  calls : List Call := []

namespace Session

variable {σ α η : Type}

def mapHost (s : Session σ α η) (f : σ → σ) : Session σ α η :=
  { s with shell := { s.shell with host := f s.shell.host } }

def print [Console σ] (s : Session σ α η) (text : String) : Session σ α η :=
  s.mapHost (Console.print text)

def complain [Console σ] (s : Session σ α η) (message : String) : Session σ α η :=
  s.mapHost (Console.report ("pipesh: " ++ message ++ "\n"))

end Session

end ShellPipeline
