import ShellPipeline.Run.Exit
import ShellPipeline.System.Errno
import ShellPipeline.Text.Utf8

/-!
# Calls of processes

A process acts on its machine by calls, each of which has an answer of its own kind. A program is
what a process does from some moment on: it makes a call and goes on with the answer, it begins
another process, it becomes another program, or it exits. A task is the part of a program that ends
with a value.
-/

namespace ShellPipeline

/-- The kind of an object that has a path or a descriptor. -/
inductive FileKind where
  | regular
  | directory
  | link
  | device
  | terminal
  | pipe
deriving DecidableEq, Repr

/-- What a process can learn about an object. -/
structure FileInfo where
  number : Nat
  kind : FileKind
  mode : Nat
  size : Nat := 0
  /-- Whether it was opened so that every write goes to the end. -/
  appends : Bool := false
deriving DecidableEq, Repr

/-- How a file is opened. -/
structure Access where
  reads : Bool := false
  writes : Bool := false
  /-- Whether every write goes to the end. -/
  appends : Bool := false
  truncates : Bool := false
  /-- The permission bits with which it is created if it does not exist. -/
  creates : Option Nat := none
  exclusive : Bool := false
deriving DecidableEq, Repr

def Access.reading : Access :=
  { reads := true }

/-- The permission bits of the files that programs create, before those of the mask are taken
out. -/
def Access.defaultBits : Nat := 0o666

/-- Opens for writing, after creating the file or dropping its content. -/
def Access.writing : Access :=
  { writes := true, truncates := true, creates := some defaultBits }

/-- Opens for writing at the end, after creating the file if it does not exist. -/
def Access.appending : Access :=
  { writes := true, appends := true, creates := some defaultBits }

/-- Where an offset is counted from. -/
inductive Origin where
  | start
  | current
  | ending
deriving DecidableEq, Repr

/-- What a process does when a signal arrives. -/
inductive SignalAction where
  | standard
  | ignored
  | caught
deriving DecidableEq, Repr

/-- A call of a process. -/
inductive SystemCall where
  /-- Reads at most so many bytes. No bytes are the end of the input. -/
  | read (fd count : Nat)
  /-- Opens a file under the lowest free descriptor. -/
  | openFile (path : String) (how : Access)
  | close (fd : Nat)
  /-- Gives the object of a descriptor the lowest free descriptor from a number on. -/
  | duplicate (fd least : Nat)
  /-- Gives the object of a descriptor another descriptor. -/
  | duplicateTo (fd target : Nat)
  /-- Makes a pipe under the lowest free descriptors, the read end first. -/
  | makePipe
  | seek (fd : Nat) (offset : Int) (origin : Origin)
  /-- Describes the object at a path, perhaps without following a last link. -/
  | describe (path : String) (follow : Bool)
  | describeOpen (fd : Nat)
  | list (path : String)
  | enter (path : String)
  /-- Asks for the path of the working directory. -/
  | directory
  | rename (path target : String)
  /-- Asks for the content of a symbolic link. -/
  | readLink (path : String)
  | changeMode (path : String) (mode : Nat)
  /-- Changes the permission bits that new files do not get, if new ones are given. -/
  | mask (bits : Option Nat)
  /-- Waits for one child or for any, or only asks. -/
  | awaitChild (process : Option Nat) (waits : Bool)
  /-- Sends a signal to a process, or to the whole group for zero. -/
  | signal (process : Nat) (number : Nat)
  /-- Says what is done when a signal arrives. -/
  | handle (number : Nat) (action : SignalAction)
  /-- Asks for the signals that were caught since this was asked the last time. -/
  | arrived
  /-- Sleeps for so many microseconds, unless a signal is caught. -/
  | sleep (duration : Nat)
  /-- Asks for the numbers of the process and of its parent. -/
  | identity
deriving DecidableEq, Repr

@[reducible] def Answer : SystemCall → Type
  | .read _ _ => Except Errno Bytes
  | .openFile _ _ => Except Errno Nat
  | .close _ => Except Errno Unit
  | .duplicate _ _ => Except Errno Nat
  | .duplicateTo _ _ => Except Errno Unit
  | .makePipe => Except Errno (Nat × Nat)
  | .seek _ _ _ => Except Errno Nat
  | .describe _ _ => Except Errno FileInfo
  | .describeOpen _ => Except Errno FileInfo
  | .list _ => Except Errno (List String)
  | .enter _ => Except Errno Unit
  | .directory => Except Errno String
  | .rename _ _ => Except Errno Unit
  | .readLink _ => Except Errno String
  | .changeMode _ _ => Except Errno Unit
  | .mask _ => Nat
  | .awaitChild _ _ => Except Errno (Option (Nat × Exit))
  | .signal _ _ => Except Errno Unit
  | .handle _ _ => SignalAction
  | .arrived => List Nat
  | .sleep _ => Unit
  | .identity => Nat × Nat

/-- What a process does from some moment on. -/
inductive Program where
  /-- Exits with a code, of which the lowest eight bits count. -/
  | exit (code : Nat)
  /-- Begins a child, and goes on with its number. -/
  | fork (child : Program) (next : Except Errno Nat → Program)
  /-- Writes bytes, and goes on with the number of those that were taken. -/
  | write (fd : Nat) (bytes : Bytes) (next : Except Errno Nat → Program)
  /-- Becomes another program, and goes on only if that is not possible. -/
  | execute (path : String) (words : List String) (environment : List (String × String))
    (next : Errno → Program)
  /-- Makes a call, and goes on with the answer. -/
  | call (c : SystemCall) (next : Answer c → Program)

/-- A part of a program that ends with a value. -/
def Task (α : Type) : Type :=
  (α → Program) → Program

namespace Task

@[inline] def done {α : Type} (a : α) : Task α :=
  fun next => next a

@[inline] def andThen {α β : Type} (t : Task α) (f : α → Task β) : Task β :=
  fun next => t fun a => f a next

instance : Monad Task where
  pure := done
  bind := andThen

def call (c : SystemCall) : Task (Answer c) :=
  fun next => .call c next

/-- Writes bytes. Answers the number of those that were taken. -/
def write (fd : Nat) (bytes : Bytes) : Task (Except Errno Nat) :=
  fun next => .write fd bytes next

/-- Becomes another program. Answers why that is not possible. -/
def execute (path : String) (words : List String) (environment : List (String × String)) :
    Task Errno :=
  fun next => .execute path words environment next

def exit {α : Type} (code : Nat) : Task α :=
  fun _ => .exit code

/-- Begins a child that does a task and exits with the code it ends with. -/
def fork (child : Task Nat) : Task (Except Errno Nat) :=
  fun next => .fork (child .exit) next

/-- The program of a task that ends with an exit code. -/
def program (t : Task Nat) : Program :=
  t .exit

end Task

/-- A bound on the rounds of loops that end only when a file ends or a signal arrives. -/
def roundLimit : Nat := 1000000000000

end ShellPipeline
