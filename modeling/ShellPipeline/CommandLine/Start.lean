import ShellPipeline.Builtin.Standard
import ShellPipeline.CommandLine.Options
import ShellPipeline.Session.Conversation
import ShellPipeline.Session.Explain

/-!
# Starting the shell

The shell carries out the line that it was started with, or else the lines of its standard input,
and leaves with the last status, of which only the lowest eight bits are seen from outside.
-/

namespace ShellPipeline

def exitCode (status : Status) : UInt8 :=
  status.toUInt32.toUInt8

/-- The exit code of a shell that is started with options it does not take. -/
def usageExitCode : UInt8 := 2

def versionText : String :=
  "pipesh 0.1.0\n"

def usageText : String :=
  "A small shell that runs pipelines of external programs\n\n" ++
  "Usage: pipesh [OPTIONS]\n\n" ++
  "Options:\n" ++
  "  -c, --command <LINE>   Run LINE and exit with its status instead of " ++
  "reading standard input\n" ++
  "      --explain          Print each parsed pipeline as JSON instead of running it\n" ++
  "      --prompt <PROMPT>  Prompt printed before each line when standard input is a terminal\n" ++
  "  -h, --help             Print help\n" ++
  "  -V, --version          Print version\n"

def OptionFault.message : OptionFault → String
  | unknownArgument => "error: unexpected argument\n"
  | missingValue => "error: a value is required\n"
  | repeatedOption => "error: an option cannot be used multiple times\n"
  | unneededValue => "error: unexpected value\n"
  | help => usageText
  | version => versionText

/-- Whether a fault of the options is an answer rather than an error. -/
def OptionFault.isAnswer (f : OptionFault) : Bool :=
  f = help || f = version

namespace Session

variable {σ α η : Type} [Host σ α η] [Console σ]

/-- Carries out a line on the standard builtins, or explains it. -/
def perform (explains : Bool) (line : String) (last : Status) (s : Session σ α η) :
    Outcome × Session σ α η :=
  if explains then s.explain line last else s.dispatch Registry.standard line last

def start (s : Session σ α η) (o : Options) : Status × Session σ α η :=
  match o.command with
  | none => s.converse (perform o.explain) o.prompt
  | some line =>
    let s := if o.explain then s else { s with history := s.history.push line }
    let (outcome, s) := perform o.explain line 0 s
    (outcome.status, s)

/-- Runs a shell with its arguments. Answers the exit code. -/
def startWith (s : Session σ α η) (environment : Option String) (arguments : List String) :
    UInt8 × Session σ α η :=
  match Options.read environment arguments with
  | .ok o =>
    let (status, s) := s.start o
    (exitCode status, s)
  | .error f =>
    if f.isAnswer then (0, s.print f.message)
    else (usageExitCode, s.mapHost (Console.report f.message))

end Session

end ShellPipeline
