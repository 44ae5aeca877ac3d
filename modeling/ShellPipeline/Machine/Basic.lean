import ShellPipeline.Descriptor.Table
import ShellPipeline.Process.Call
import ShellPipeline.System.Signal
import ShellPipeline.World.Basic

/-!
# Machines

A machine runs processes on a world that they share. Time is counted in microseconds. Every process
has the moment from which it can go on, so that processes which sleep, or have more to do, come
later than others.
-/

namespace ShellPipeline

/-- What a process is doing. -/
inductive Phase where
  | ready
  /-- Its next call cannot be answered yet. -/
  | waiting
  /-- It ended, and its parent has not asked about it. -/
  | ended (exit : Exit)
deriving DecidableEq, Repr

/-- A process. -/
structure Process where
  number : Nat
  parent : Nat
  program : Program
  descriptors : Descriptors Channel
  directory : Nat
  /-- The permission bits that its new files do not get. -/
  mask : Nat
  /-- What it does about those signals that do not take their own effect. -/
  actions : List (Signal × SignalAction) := []
  /-- The signals that were caught and not asked for yet, the oldest first. -/
  arrived : List Signal := []
  /-- The moment from which it can go on. -/
  moment : Nat := 0
  phase : Phase := .ready
  stopped : Bool := false

/-- A machine. -/
structure Machine where
  world : World
  processes : List Process := []
  next : Nat := 1001
  clock : Nat := 0
  environment : List (String × String) := []

namespace Machine

/-- The number of the process that adopts the children of others. -/
def adopter : Nat := 1

/-- The number of the shell, which is no process of the machine itself. -/
def shellNumber : Nat := 1000

def process? (m : Machine) (number : Nat) : Option Process :=
  m.processes.find? (·.number = number)

def update (m : Machine) (number : Nat) (f : Process → Process) : Machine :=
  { m with processes := m.processes.map fun p => if p.number = number then f p else p }

def onWorld {ε : Type} (m : Machine) (f : World → ε × World) : ε × Machine :=
  let (answer, world) := f m.world
  (answer, { m with world })

/-- The time between the creation of a process and its beginning. -/
def birthTime : Nat := 300

/-- The time that the creation of a process takes its parent. -/
def forkTime : Nat := 120

/-- The time that it takes to begin another program. -/
def executeTime : Nat := 800

def callTime : Nat := 2

/-- The time until a process goes on that was waiting. -/
def wakeTime : Nat := 50

/-- The number of bytes that are read or written in one microsecond. -/
def bytesPerTime : Nat := 2000

def releaseAll (w : World) (d : Descriptors Channel) : World :=
  d.slots.foldl (fun w slot => slot.elim w w.release) w

def acquireAll (w : World) (d : Descriptors Channel) : World :=
  d.slots.foldl (fun w slot => slot.elim w w.acquire) w

end Machine

end ShellPipeline
