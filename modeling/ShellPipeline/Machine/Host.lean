import ShellPipeline.Child.Failure
import ShellPipeline.Child.Plan
import ShellPipeline.Child.Wait
import ShellPipeline.Child.Write
import ShellPipeline.Machine.Run
import ShellPipeline.World.Console
import ShellPipeline.World.Requests

/-!
# Machines as hosts

On a machine a process is created from a copy of the descriptors of the shell. It rewires them and
becomes the program of its stage, or says why it cannot. It runs when the shell waits, at the same
time as all others.
-/

namespace ShellPipeline

namespace Machine

def searchPath : List String :=
  ["/usr/local/sbin", "/usr/local/bin", "/usr/sbin", "/usr/bin", "/sbin", "/bin"]

def environmentOf (w : World) : List (String × String) :=
  [("PATH", ":".intercalate searchPath), ("LC_ALL", "C")]
    ++ (w.home.map fun home => ("HOME", wordOfText home)).toList

def ofWorld (world : World) : Machine :=
  { world, environment := environmentOf world }

def usualInterpreter : String := "/bin/sh"

/-- The program at a path. A file that does not tell how it is executed is a script for the usual
interpreter. -/
def loadAny (m : Machine) (path : String) (words : List String) : Except Errno Program :=
  let load := load m.world m.world.directory m.environment interpreterDepth
  match load path words with
  | .error e =>
    if e = .execFormat then
      load usualInterpreter (usualInterpreter :: path :: words.drop 1)
    else .error e
  | .ok program => .ok program

/-- The program with a name, which is looked for in directories. That a file cannot be executed is
said only if no other one is found. -/
def loadSearching (m : Machine) (words : List String) (failure : Errno) :
    List String → Except Errno Program
  | [] => .error failure
  | place :: rest =>
    match m.loadAny (place ++ "/" ++ words.headD "") words with
    | .ok program => .ok program
    | .error e =>
      if e = .accessDenied then m.loadSearching words e rest
      else if e = .noEntry || e = .notDirectory then m.loadSearching words failure rest
      else .error e

def loadNamed (m : Machine) (words : List String) : Except Errno Program :=
  let name := words.headD ""
  if name = "" then .error .noEntry
  else if name.toList.contains '/' then m.loadAny name words
  else if Path.maxNameSize < name.length then .error .nameTooLong
  else m.loadSearching words .noEntry searchPath

/-- Lets a process write a text of the shell to its standard error. -/
def report (d : Descriptors Channel) (w : World) (text : String) : World :=
  match d.get? standardError with
  | none => w
  | some c =>
    let written := writeAll (utf8 text) w.writes
    { (w.write c written.accepted).2 with writes := written.unused }

/-- Lets a process write texts one after the other. Each one is tried, whatever became of those
before it. -/
def reportAll (d : Descriptors Channel) (w : World) (texts : List String) : World :=
  texts.foldl (report d) w

/-- What becomes of the process of a stage: its descriptors and its program, or why there is no
program. -/
def plan (m : Machine) (l : Launch Channel) (v : ArgumentVector) :
    Descriptors Channel × Except ChildFailure Program :=
  let name := l.stage.program
  match l.childDescriptors with
  | .error e => (l.descriptors, .error (.ofErrno name e))
  | .ok descriptors =>
    (descriptors, (m.loadNamed (v.arguments.map wordOfBytes)).mapError (.ofExecute name))

/-- Adds the process of a stage. A process without a program says so and exits. -/
def start (m : Machine) (descriptors : Descriptors Channel)
    (program : Except ChildFailure Program) : Machine :=
  let born : Process :=
    { number := m.next, parent := shellNumber, program := .exit 0, descriptors,
      directory := m.world.directory, mask := m.world.mask,
      moment := m.clock + birthTime + executeTime }
  let m := { m with next := m.next + 1, clock := m.clock + forkTime }
  match program with
  | .error f =>
    let dead := { born with descriptors := {}, phase := .ended (.exited f.code) }
    { m with
      world := reportAll descriptors m.world f.message
      processes := m.processes ++ [dead] }
  | .ok program =>
    { m with
      world := acquireAll m.world descriptors
      processes := m.processes ++ [{ born with program }] }

/-- Creates the process of a stage, unless its words cannot be passed or there are no processes
left. Answers the number of the process. -/
def spawn (l : Launch Channel) (m : Machine) : Except Fault Nat × Machine :=
  match ArgumentVector.ofStage l.index l.stage with
  | .error f => (.error f, m)
  | .ok v =>
    if m.world.limits.noProcesses then (.error (.fork l.index .tryAgain), m)
    else
      let (descriptors, program) := m.plan l v
      (.ok m.next, (m.start descriptors program).wake)

/-- The answer of the system about a process that has ended. The system has no report of a signal
without a name. -/
def answerOf : Exit → WaitAnswer
  | .exited code => .exited code
  | .signaled signal =>
    if Signal.lastNamed < signal.toNatClampNeg then .failed .invalidArgument else .signaled signal

/-- The answers of the system to those who wait for a process from now on. -/
def waitAnswers (m : Machine) (process : Nat) : List WaitAnswer :=
  let interruptions :=
    if m.world.limits.interrupted then [.failed .interrupted, .failed .interrupted] else []
  match (m.process? process).map Process.phase with
  | some (.ended exit) => interruptions ++ [answerOf exit]
  | _ => []

def wait (index process : Nat) (m : Machine) : Except Fault Exit × Machine :=
  let m := m.run fun m => (m.process? process).all Process.hasEnded
  let (outcome, _) := awaitExit (m.waitAnswers process)
  (outcome.mapError (.wait index),
    { m with processes := m.processes.filter (·.number != process) })

instance : Host Machine Channel Nat where
  openInput path m := m.onWorld (World.openInput path)
  openOutput mode path m := m.onWorld (World.openOutput mode path)
  makePipe m := m.onWorld World.makePipe
  protect _ m := (.ok (), m)
  release c m := { m with world := m.world.release c }.wake
  spawn := spawn
  wait := wait

instance : Console Machine where
  print text m := { m with world := m.world.print text }
  report text m := { m with world := m.world.complain text }
  read count m := m.onWorld (·.readInput count)
  isTerminal m := Console.isTerminal m.world
  pending m := m.world.pendingInput
  enter path m := m.onWorld (World.enter path)
  directory m := Console.directory m.world
  home m := m.world.home

end Machine

end ShellPipeline
