import ShellPipeline.Session.Basic
import ShellPipeline.Text.Blank
import ShellPipeline.Text.Lines

/-!
# Reading lines until the end

A conversation reads one line after the other, however the input comes in pieces, and carries out
each of them with the status of the one before. It ends when a line asks for it or at the end of
the input. On a terminal a prompt is shown before each line, and a new line at the end of the
input.
-/

namespace ShellPipeline

/-- A line without the line ends and carriage returns that end it. -/
def trimLine (s : String) : String :=
  String.ofList (s.toList.reverse.dropWhile (fun c => c = '\n' || c = '\r')).reverse

namespace Session

variable {σ α η : Type} [Console σ]

/-- The number of bytes that are read at once. -/
def readSize : Nat := 8192

/-- Reads up to a line end or the end of the input, in at most so many reads, after bytes that
hold no line end. -/
def readOn (s : Session σ α η) (begun : Bytes) : Nat → Bytes × Session σ α η
  | 0 => (begun, s)
  | reads + 1 =>
    let (piece, host) := Console.read readSize s.shell.host
    let s := s.mapHost fun _ => host
    match splitLine? piece with
    | some (line, ahead) => (begun ++ line, { s with ahead })
    | none => if piece.isEmpty then (begun, s) else s.readOn (begun ++ piece) reads

/-- Reads a line with its line end. The last line may have none, and there is nothing at the end
of the input. -/
def readLine (s : Session σ α η) : Bytes × Session σ α η :=
  match splitLine? s.ahead with
  | some (line, ahead) => (line, { s with ahead })
  | none => { s with ahead := [] }.readOn s.ahead (Console.pending s.shell.host + 1)

omit [Console σ] in
/-- Adds a line to the history unless it is blank. -/
def remember (s : Session σ α η) (line : String) : Session σ α η :=
  if isBlankText line then s else { s with history := s.history.push line }

def showPrompt (s : Session σ α η) (prompt : Option String) : Session σ α η :=
  prompt.elim s s.print

def converseFor (perform : String → Status → Session σ α η → Outcome × Session σ α η)
    (prompt : Option String) (status : Status) (s : Session σ α η) :
    Nat → Status × Session σ α η
  | 0 => (status, s)
  | lines + 1 =>
    let (bytes, s) := (s.showPrompt prompt).readLine
    if bytes.isEmpty then (status, s.showPrompt (prompt.map fun _ => "\n"))
    else
      let line := trimLine (decodeText bytes)
      let (outcome, s) := perform line status (s.remember line)
      if outcome.exit then (outcome.status, s)
      else converseFor perform prompt outcome.status s lines

/-- Carries out lines until the end of the input or until one of them asks to exit. -/
def converse (perform : String → Status → Session σ α η → Outcome × Session σ α η)
    (prompt : String) (s : Session σ α η) : Status × Session σ α η :=
  let host := s.shell.host
  let prompt := if Console.isTerminal host then some prompt else none
  converseFor perform prompt 0 s (s.ahead.length + Console.pending host + 1)

end Session

end ShellPipeline
