import ShellPipeline.Line.Parse
import ShellPipeline.Session.Basic

/-!
# Carrying out a line

A line goes exactly one way. A line that cannot be read and a builtin that is piped or redirected
are complained about, a blank line changes nothing, a builtin is called, and everything else is
run as a pipeline of programs.
-/

namespace ShellPipeline

/-- The way of a line. -/
inductive Route (τ : Type) where
  | invalid (e : ParseError)
  | blank
  /-- A builtin is called with these words. -/
  | builtin (h : Handler τ) (words : List String)
  /-- A builtin of this name is piped or redirected. -/
  | misused (name : String)
  | external (p : Pipeline)

def Pipeline.isPlain (p : Pipeline) : Bool :=
  p.length ≤ 1 && !p.redirected

def Registry.routePipeline {τ : Type} (r : Registry τ) (p : Pipeline) : Route τ :=
  match r.lookup p.first.program with
  | none => .external p
  | some h => if p.isPlain then .builtin h p.first.argv else .misused p.first.program

def Registry.route {τ : Type} (r : Registry τ) (line : String) : Route τ :=
  match parse line with
  | .error e => .invalid e
  | .ok none => .blank
  | .ok (some p) => r.routePipeline p

namespace Session

variable {σ α η : Type} [Host σ α η] [Console σ]

omit [Host σ α η] in
def complainInvalid (s : Session σ α η) (e : ParseError) : Outcome × Session σ α η :=
  (⟨failureStatus, false⟩, s.complain ("input parse error: " ++ e.message))

/-- Runs a pipeline, and complains if it cannot be run. -/
def runPipeline (s : Session σ α η) (p : Pipeline) : Outcome × Session σ α η :=
  match s.shell.run p with
  | (.ok status, shell) => (⟨status, false⟩, { s with shell })
  | (.error f, shell) => (⟨failureStatus, false⟩, { s with shell }.complain f.message)

def follow (s : Session σ α η) (last : Status) : Route (Session σ α η) → Outcome × Session σ α η
  | .invalid e => s.complainInvalid e
  | .blank => (⟨last, false⟩, s)
  | .builtin h words => h words last false s
  | .misused name =>
    (⟨failureStatus, false⟩, s.complain (name ++ ": builtins cannot be piped or redirected"))
  | .external p => s.runPipeline p

/-- Carries out a line, after which the previous status is the one of the outcome. -/
def dispatch (r : Registry (Session σ α η)) (line : String) (last : Status)
    (s : Session σ α η) : Outcome × Session σ α η :=
  s.follow last (r.route line)

end Session

end ShellPipeline
