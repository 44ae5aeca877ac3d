import ShellPipeline.Machine.Load
import ShellPipeline.Machine.Reply

/-!
# Running processes

The process whose moment comes first makes one step. A process whose call cannot be answered yet
waits, and goes on soon after the answer has become possible.
-/

namespace ShellPipeline

/-- What came of a step of a process. -/
structure Turn where
  machine : Machine
  program : Program
  /-- Whether it has to wait for that. -/
  waits : Bool := false
  time : Nat := Machine.callTime

namespace Machine

/-- The answer to a write into a channel, or else the process that writes has to wait after it has
written a part. -/
def write (m : Machine) (p : Process) (fd : Nat) (bytes : Bytes)
    (next : Except Errno Nat → Program) : Turn :=
  match p.descriptors.get? fd with
  | none => ⟨m, next (.error .badDescriptor), false, callTime⟩
  | some c =>
    let count := takes m.world c bytes.length
    let (outcome, m') := m.onWorld (·.write c (bytes.take count))
    match outcome with
    | .error .brokenPipe =>
      ⟨m'.deliver p.number Signal.brokenPipe, next (.error .brokenPipe), false, callTime⟩
    | .error e => ⟨m', next (.error e), false, callTime⟩
    | .ok () =>
      let time := callTime + count / bytesPerTime
      if count = bytes.length then ⟨m', next (.ok count), false, time⟩
      else if !p.arrived.isEmpty then
        ⟨m', next (if count = 0 then .error .interrupted else .ok count), false, time⟩
      else
        ⟨m', .write fd (bytes.drop count) fun answer => next (answer.map (· + count)), true, time⟩

def fork (m : Machine) (p : Process) (child : Program) (next : Except Errno Nat → Program) :
    Turn :=
  if m.world.limits.noProcesses then ⟨m, next (.error .tryAgain), false, callTime⟩
  else
    let born := { p with
      number := m.next
      parent := p.number
      program := child
      arrived := []
      moment := m.clock + birthTime }
    let m := { m with
      next := m.next + 1
      processes := m.processes ++ [born]
      world := acquireAll m.world p.descriptors }
    ⟨m, next (.ok born.number), false, forkTime⟩

/-- Signals that a program catches have their own effect in the next one. -/
def forgetCaught (p : Process) : Process :=
  { p with actions := p.actions.filter (·.2 = .ignored), arrived := [] }

def execute (m : Machine) (p : Process) (path : String) (words : List String)
    (environment : List (String × String)) (next : Errno → Program) : Turn :=
  match load m.world p.directory environment interpreterDepth path words with
  | .error e => ⟨m, next e, false, callTime⟩
  | .ok program => ⟨m.update p.number forgetCaught, program, false, executeTime⟩

def timeOf : (c : SystemCall) → Answer c → Nat
  | .read _ _, .ok bytes => callTime + bytes.length / bytesPerTime
  | .sleep duration, _ => callTime + duration
  | _, _ => callTime

def call (m : Machine) (p : Process) (c : SystemCall) (next : Answer c → Program) : Turn :=
  match m.reply p c with
  | none => ⟨m, .call c next, true, callTime⟩
  | some (answer, m) => ⟨m, next answer, false, timeOf c answer⟩

def canGoOn (m : Machine) (p : Process) : Bool :=
  !p.arrived.isEmpty ||
    match p.program with
    | .write fd bytes _ =>
      (p.descriptors.get? fd).all fun c => match c with
        | .writer pipe => isBroken m.world pipe || takes m.world c bytes.length != 0
        | _ => true
    | .call (.read fd _) _ => (p.descriptors.get? fd).all (canRead m.world)
    | .call (.awaitChild child _) _ =>
      let candidates := m.candidates p child
      candidates.isEmpty || candidates.any Process.hasEnded
    | _ => true

def wake (m : Machine) : Machine :=
  { m with processes := m.processes.map fun p =>
      if p.phase = .waiting && m.canGoOn p then
        { p with phase := .ready, moment := m.clock + wakeTime }
      else p }

def first? (m : Machine) : Option Process :=
  m.processes.foldl (fun best p =>
    if p.phase != .ready || p.stopped then best
    else match best with
      | none => some p
      | some b => if p.moment < b.moment then some p else best) none

/-- Lets a process end its turn, unless it has ended. -/
def settle (t : Turn) (number : Nat) : Machine :=
  (t.machine.update number fun p =>
    if p.hasEnded then p
    else { p with
      program := t.program
      phase := if t.waits then .waiting else .ready
      moment := t.machine.clock + t.time }).wake

def turn (m : Machine) (p : Process) : Turn :=
  match p.program with
  | .exit code => ⟨m.finish p.number (.exited (Int32.ofNat (code % 256))), .exit code, false, 0⟩
  | .fork child next => m.fork p child next
  | .write fd bytes next => m.write p fd bytes next
  | .execute path words environment next => m.execute p path words environment next
  | .call c next => m.call p c next

/-- Makes the next step, if a process can make one. -/
def step? (m : Machine) : Option Machine :=
  m.first?.map fun p =>
    let m := { m with clock := max m.clock p.moment }
    settle (m.turn p) p.number

def runUntil (holds : Machine → Bool) : Nat → Machine → Machine
  | 0, m => m
  | steps + 1, m =>
    if holds m then m
    else match m.step? with
      | none => m
      | some m => runUntil holds steps m

/-- Runs until something holds or no process can make a step. -/
def run (m : Machine) (holds : Machine → Bool) : Machine :=
  runUntil holds roundLimit m

/-- Reads a pipe to its end, in at most so many reads, after what was read. -/
def drainFor (pipe : Nat) (done : Queue) : Nat → Machine → Bytes × Machine
  | 0, m => (done.toBytes, m)
  | reads + 1, m =>
    let m := m.run fun m => canRead m.world (.reader pipe)
    let (outcome, m) := m.onWorld (·.read (.reader pipe) pipeSize)
    let bytes := outcome.toOption.getD []
    if bytes.isEmpty then (done.toBytes, m)
    else drainFor pipe (done.add bytes) reads m.wake

def drain (m : Machine) (c : Channel) : Except Errno Bytes × Machine :=
  match c with
  | .reader pipe =>
    let (bytes, m) := drainFor pipe {} roundLimit m
    (.ok bytes, m)
  | c => m.onWorld (·.readAll c)

/-- Whether a process can write to a standard stream of the shell. -/
def holdsStreams (p : Process) : Bool :=
  p.descriptors.slots.any fun slot => slot = some .output || slot = some .errors

/-- Runs until no process can write to the standard streams of the shell. -/
def runOut (m : Machine) : Machine :=
  m.run fun m => !m.processes.any holdsStreams

end Machine

end ShellPipeline
