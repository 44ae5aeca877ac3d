import ShellPipeline.Run.Shell

/-!
# Connecting one stage

A stage reads its input file if it names one, else the pipe that the stage before it writes, else
what the shell reads. A pipe that is not read is closed before the file is opened, so its writer
is not left waiting. The input is opened before the output. If anything fails, whatever was
acquired for the stage is closed, its incoming pipe included.
-/

namespace ShellPipeline

namespace Shell

variable {σ α η : Type} [Host σ α η]

def resolveInput (s : Shell σ α η) (stage : Stage) (incoming : Option Nat) :
    Except Fault Connection × Shell σ α η :=
  match stage.input, incoming with
  | some path, _ =>
    match (s.closeAll incoming.toList).openInput path with
    | (.error e, s) => (.error (.openInput path e), s)
    | (.ok fd, s) => (.ok (.file fd), s)
  | none, some fd => (.ok (.pipe fd), s)
  | none, none => (.ok .inherit, s)

/-- Connects the standard output of the stage at a position. Answers also the read end that is
kept for the next stage. -/
def resolveOutput (s : Shell σ α η) (index : Nat) (stage : Stage) :
    Except Fault (Connection × Option Nat) × Shell σ α η :=
  match stage.output with
  | .inherit => (.ok (.inherit, none), s)
  | .file mode path =>
    match s.openOutput mode path with
    | (.error e, s) => (.error (.openOutput path e), s)
    | (.ok fd, s) => (.ok (.file fd, none), s)
  | .pipe =>
    match s.makePipe index with
    | (.error e, s) => (.error (.pipe index e), s)
    | (.ok (readEnd, writeEnd), s) => (.ok (.pipe writeEnd, some readEnd), s)

/-- Connects the stage at a position, of which `incoming` is the incoming pipe. -/
def resolve (s : Shell σ α η) (index : Nat) (stage : Stage) (incoming : Option Nat) :
    Except Fault Resolved × Shell σ α η :=
  match s.resolveInput stage incoming with
  | (.error f, s) => (.error f, s)
  | (.ok stdin, s) =>
    match s.resolveOutput index stage with
    | (.error f, s) => (.error f, s.closeAll stdin.descriptor?.toList)
    | (.ok (stdout, downstream), s) => (.ok ⟨⟨stdin, stdout⟩, downstream⟩, s)

end Shell

end ShellPipeline
