import ShellPipeline.Child.Rewire
import ShellPipeline.Process.Call
import ShellPipeline.Text.Locale
import ShellPipeline.System.Signal
import ShellPipeline.World.Queue

/-!
# Tools

A tool is a program that is made from its words and its environment. What it puts out is held back
until there is a block of it, until the tool complains or until it ends. If it could not be written
the tool says so at its end.
-/

namespace ShellPipeline

abbrev Environment := List (String × String)

/-- A program that takes words, of which the first is its name, and an environment. -/
abbrev Tool := List String → Environment → Task Nat

/-- Goes on from state to state as long as that is asked for, at most so many times. -/
def keepOn {σ : Type} {m : Type → Type} [Monad m] (step : σ → m (σ × Bool)) : Nat → σ → m σ
  | 0, s => pure s
  | rounds + 1, s => do
    let (s, more) ← step s
    if more then keepOn step rounds s else pure s

namespace Task

/-- Writes bytes until all of them are taken, in at most so many writes. -/
def writeFor (fd : Nat) : Nat → Bytes → Task (Except Errno Unit)
  | 0, _ => pure (.ok ())
  | writes + 1, bytes => do
    if bytes.isEmpty then return .ok ()
    match ← Task.write fd bytes with
    | .error e => return .error e
    | .ok count => writeFor fd writes (bytes.drop count)

def writeAll (fd : Nat) (bytes : Bytes) : Task (Except Errno Unit) :=
  writeFor fd (bytes.length + 1) bytes

def read (fd count : Nat) : Task (Except Errno Bytes) :=
  Task.call (.read fd count)

/-- Reads to the end in pieces of at most so many bytes. -/
def readAll (fd size : Nat) : Task (Except Errno Bytes) := do
  let (done, fault) ← keepOn (m := Task) (fun (done, _) => do
    match ← read fd size with
    | .error e => return ((done, some e), false)
    | .ok bytes => return ((done.add bytes, none), !bytes.isEmpty)) roundLimit
    (({} : Queue), (none : Option Errno))
  return match fault with
    | some e => .error e
    | none => .ok done.toBytes

def close (fd : Nat) : Task Unit := do
  let _ ← Task.call (.close fd)

end Task

/-- What a tool has at hand while it works. -/
structure Desk where
  /-- The name that it was called by. -/
  name : String
  /-- What it put out and has not written. -/
  held : Queue := {}
  fault : Option Errno := none
  /-- The code that it exits with when it fails. -/
  failure : Nat := 1

abbrev Job := StateT Desk Task

namespace Job

/-- The number of bytes that are written at once. -/
def blockSize : Nat := 4096

/-- Writes what is held back, but for the last bytes that are no block if only blocks are asked
for. -/
def writeHeld (blocks : Bool) : Job Unit := do
  let d ← get
  let size := if blocks then d.held.size / blockSize * blockSize else d.held.size
  if size != 0 then
    let (now, later) := d.held.take size
    match ← Task.writeAll standardOutput now with
    | .ok () => set { d with held := later }
    | .error e => set { d with fault := some e }

def flush : Job Unit :=
  writeHeld false

/-- Writes all that is held back, and drops it if that is not possible. -/
def flushLine : Job Unit := do
  flush
  modify fun d => if d.fault.isSome then { d with held := {} } else d

def put (bytes : Bytes) : Job Unit := do
  modify fun d => { d with held := d.held.add bytes }
  if blockSize < (← get).held.size then writeHeld true

def print (text : String) : Job Unit :=
  put (bytesOfWord text)

def report (text : String) : Job Unit := do
  let _ ← Task.writeAll standardError (bytesOfWord text)

def complain (message : String) : Job Unit := do
  flush
  report ((← get).name ++ ": " ++ message ++ "\n")

def complainOf (subject : String) (e : Errno) : Job Unit :=
  complain (subject ++ ": " ++ e.wording)

/-- Exits with a code, or with the code for failures if something could not be written. -/
def leave {α : Type} (code : Nat) : Job α := do
  let before := (← get).fault
  modify fun d => { d with fault := none }
  flush
  let d ← get
  match before, d.fault with
  | _, some e =>
    report (d.name ++ ": write error: " ++ e.wording ++ "\n")
    (Task.exit d.failure : Task α)
  | some e, none =>
    let cause := if e = .badDescriptor then ": " ++ e.wording else ""
    report (d.name ++ ": write error" ++ cause ++ "\n")
    (Task.exit d.failure : Task α)
  | none, none => (Task.exit code : Task α)

def fail {α : Type} (message : String) : Job α := do
  complain message
  leave (← get).failure

def usage {α : Type} : Job α := do
  let d ← get
  flush
  report ("Try '" ++ d.name ++ " --help' for more information.\n")
  leave d.failure

def misuse {α : Type} (message : String) : Job α := do
  complain message
  usage

def checkWritten : Job Unit := do
  let d ← get
  if let some e := d.fault then
    set { d with held := {}, fault := none }
    fail ("write error: " ++ e.wording)

/-- The tool that does a job and exits with a code at its end. -/
def toTool (failure : Nat) (work : List String → Environment → Job Nat) : Tool :=
  fun words environment next =>
    ((do leave (← work (words.drop 1) environment) : Job Nat).run
      { name := words.headD "", failure }) fun (code, _) => next code

/-- Closes standard input, and fails if that is not possible. -/
def closeInput (subject : String) : Job Unit := do
  match ← (Task.call (.close standardInput) : Task _) with
  | .ok () => return
  | .error e => fail (subject ++ ": " ++ e.wording)

def openFile (path : String) (how : Access) : Job (Except Errno Nat) :=
  Task.call (.openFile path how)

end Job

end ShellPipeline
