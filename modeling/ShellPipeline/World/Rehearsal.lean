import ShellPipeline.World.Console

/-!
# Rehearsals

In a rehearsal stand-ins take the place of processes. Files and pipes are those of the machine,
but a stand-in only does what it is told: it may read its input to the end, it writes a given text
followed by what it read, and it ends in a given way. The rehearsal keeps a record of the
stand-ins and of the waits.
-/

namespace ShellPipeline

/-- What a stand-in does. -/
structure StandIn where
  refusal : Option Errno := none
  reads : Bool := false
  /-- What it writes before what it read. -/
  reply : Bytes := []
  waitFault : Option Errno := none
  exit : Exit := .exited 0
deriving Repr

/-- What a stand-in was connected to. -/
inductive Part where
  | inherit
  | file
  /-- The pipe that was made for the stage at this position. -/
  | pipe (stage : Nat)
deriving DecidableEq, Repr

/-- The record of a stand-in. -/
structure Appearance where
  argv : List String
  stdin : Part
  stdout : Part
  /-- Whether the shell kept a read end of its pipe. -/
  downstream : Bool
  read : Option (Except Errno Bytes)

/-- A machine with stand-ins. -/
structure Rehearsal where
  world : World
  /-- The stand-ins, by the position of the stage. Those after the last one do nothing. -/
  standIns : List StandIn := []
  /-- The pipes that stages write, with the positions of the stages. -/
  writers : List (Nat × Nat) := []
  appearances : List Appearance := []
  /-- The positions of the stages that were waited for. -/
  waited : List Nat := []

namespace Rehearsal

def ask {ε : Type} (request : World → ε × World) (r : Rehearsal) : ε × Rehearsal :=
  let (outcome, world) := request r.world
  (outcome, { r with world })

def standIn (r : Rehearsal) (index : Nat) : StandIn :=
  r.standIns.getD index {}

def channel? (l : Launch Channel) (c : Connection) (standard : Nat) : Option Channel :=
  l.descriptors.get? (c.descriptor?.getD standard)

def part (r : Rehearsal) (l : Launch Channel) : Connection → Part
  | .inherit => .inherit
  | .file _ => .file
  | .pipe fd =>
    match l.descriptors.get? fd with
    | some (.reader pipe) => .pipe ((r.writers.lookup pipe).getD l.index)
    | _ => .pipe l.index

def noteWriter (r : Rehearsal) (l : Launch Channel) : Rehearsal :=
  match channel? l l.resolved.wiring.stdout standardOutput with
  | some (.writer pipe) => { r with writers := (pipe, l.index) :: r.writers }
  | _ => r

def readPart (r : Rehearsal) (l : Launch Channel) : Except Errno Bytes × Rehearsal :=
  match channel? l l.resolved.wiring.stdin standardInput with
  | none => (.error .badDescriptor, r)
  | some c => r.ask (·.readAll c)

def writePart (r : Rehearsal) (l : Launch Channel) (bytes : Bytes) : Rehearsal :=
  match channel? l l.resolved.wiring.stdout standardOutput with
  | some c => if bytes.isEmpty then r else (r.ask (·.write c bytes)).2
  | none => r

def perform (r : Rehearsal) (l : Launch Channel) (standIn : StandIn) : Rehearsal :=
  let (read, r) := if standIn.reads then (r.readPart l).map some id else (none, r)
  let r := r.writePart l (standIn.reply ++ ((read.getD (.ok [])).toOption.getD []))
  let wiring := l.resolved.wiring
  let appearance : Appearance :=
    { argv := l.stage.argv, stdin := r.part l wiring.stdin, stdout := r.part l wiring.stdout,
      downstream := l.resolved.downstream.isSome, read }
  { r with appearances := r.appearances ++ [appearance] }.noteWriter l

def spawn (l : Launch Channel) (r : Rehearsal) : Except Fault Nat × Rehearsal :=
  let standIn := r.standIn l.index
  match standIn.refusal with
  | some e => (.error (.fork l.index e), r)
  | none => (.ok l.index, r.perform l standIn)

def wait (index process : Nat) (r : Rehearsal) : Except Fault Exit × Rehearsal :=
  let r := { r with waited := r.waited ++ [process] }
  let standIn := r.standIn process
  match standIn.waitFault with
  | some e => (.error (.wait index e), r)
  | none => (.ok standIn.exit, r)

instance : Host Rehearsal Channel Nat where
  openInput path := ask (World.openInput path)
  openOutput mode path := ask (World.openOutput mode path)
  makePipe := ask World.makePipe
  protect _ r := (.ok (), r)
  release c r := { r with world := r.world.release c }
  spawn := spawn
  wait := wait

instance : Console Rehearsal where
  print text r := { r with world := r.world.print text }
  report text r := { r with world := r.world.complain text }
  read count := ask (·.readInput count)
  isTerminal r := Console.isTerminal r.world
  pending r := r.world.pendingInput
  enter path := ask (World.enter path)
  directory r := Console.directory r.world
  home r := r.world.home

end Rehearsal

end ShellPipeline
