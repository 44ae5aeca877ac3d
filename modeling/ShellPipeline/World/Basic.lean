import ShellPipeline.Child.Write
import ShellPipeline.Pipeline.Stage
import ShellPipeline.Process.Call
import ShellPipeline.World.Queue
import ShellPipeline.World.Terminal
import ShellPipeline.World.Tree

/-!
# What processes share

The processes of a machine share a tree of files, the files they have open, pipes, a terminal and
the streams on which the shell was started. Every holder of an end of a pipe is counted: a pipe
without writers is at its end when it is empty, and a write into a pipe without readers fails.
-/

namespace ShellPipeline

/-- What a descriptor stands for. -/
inductive Channel where
  | output
  | errors
  | terminal
  | reader (pipe : Nat)
  | writer (pipe : Nat)
  | file (number : Nat)
deriving DecidableEq, Repr

/-- An object of the tree that was opened. -/
structure OpenFile where
  node : Nat
  /-- Where the next byte is read or written. -/
  offset : Nat := 0
  reads : Bool := true
  writes : Bool := false
  /-- Whether every write goes to the end. -/
  appends : Bool := false
  holders : Nat := 1
deriving DecidableEq, Repr

/-- A pipe. -/
structure Pipe where
  /-- What was written and not yet read. -/
  content : Queue := {}
  /-- The number of holders of its read end. -/
  readers : Nat := 1
  /-- The number of holders of its write end. -/
  writers : Nat := 1
deriving DecidableEq, Repr

/-- What a machine refuses, whatever is asked. -/
structure Limits where
  noDescriptors : Bool := false
  noProcesses : Bool := false
  interrupted : Bool := false
deriving DecidableEq, Repr

/-- What processes share. -/
structure World where
  tree : Tree := {}
  directory : Nat := 0
  /-- The home directory of the user, if it is known. -/
  home : Option String := none
  /-- The permission bits that new files do not get. -/
  mask : Nat := 0
  files : Array OpenFile := #[]
  pipes : Array Pipe := #[]
  input : Channel := .terminal
  /-- What can be read from the terminal, piece by piece. -/
  typed : List Bytes := []
  /-- What was written to the standard output of the shell. -/
  output : Queue := {}
  /-- What was written to the standard error of the shell. -/
  errors : Queue := {}
  /-- What the system will answer when a new process writes a message of the shell. -/
  writes : List WriteAnswer := []
  limits : Limits := {}
deriving DecidableEq, Repr

def unmasked (mode mask : Nat) : Nat :=
  mode ^^^ (mode &&& mask)

namespace World

/-- Opens an object, in the place of an open file without holders if there is one. -/
def addFile (w : World) (f : OpenFile) : Channel × World :=
  match w.files.findIdx? fun f => f.holders = 0 with
  | none => (.file w.files.size, { w with files := w.files.push f })
  | some number => (.file number, { w with files := w.files.setIfInBounds number f })

def isBeingWritten (w : World) (id : Nat) : Bool :=
  w.files.any fun f => f.node = id && f.writes && f.holders != 0

def allows (mode : Nat) (how : Access) : Bool :=
  (!how.reads || permits mode readBit) && (!how.writes || permits mode writeBit)

/-- The object that is opened by an access to a path. It is created if that is asked for. -/
def openNode (w : World) (dir mask : Nat) (path : String) (how : Access) :
    Except Errno (Nat × Bool × World) :=
  match how.creates with
  | none => (w.tree.find dir path).map fun id => (id, false, w)
  | some mode =>
    match w.tree.findOutput dir path (unmasked mode mask) with
    | .error e => .error e
    | .ok (_, false, _) =>
      if how.exclusive then .error .alreadyExists
      else (w.tree.find dir path).map fun id => (id, false, w)
    | .ok (id, true, tree) => .ok (id, true, { w with tree })

/-- Opens an object that is no stand-in for a descriptor. -/
def openFound (w : World) (id : Nat) (new : Bool) (how : Access) : Except Errno Channel × World :=
  match w.tree.node? id with
  | none => (.error .noEntry, w)
  | some node =>
    if (w.tree.directory? id).isSome && how.writes then (.error .isDirectory, w)
    else if !new && !allows node.mode how then (.error .accessDenied, w)
    else
      let tree := if how.truncates then w.tree.truncate id else w.tree
      let f : OpenFile :=
        { node := id, reads := how.reads, writes := how.writes, appends := how.appends }
      let (c, w) := { w with tree }.addFile f
      (.ok c, w)

/-- Makes a pipe. Answers its read end and its write end. -/
def addPipe (w : World) : (Channel × Channel) × World :=
  ((.reader w.pipes.size, .writer w.pipes.size), { w with pipes := w.pipes.push {} })

def updatePipe (w : World) (pipe : Nat) (f : Pipe → Pipe) : World :=
  { w with pipes := w.pipes.modify pipe f }

def updateFile (w : World) (number : Nat) (f : OpenFile → OpenFile) : World :=
  { w with files := w.files.modify number f }

def acquire (w : World) (c : Channel) : World :=
  match c with
  | .reader pipe => w.updatePipe pipe fun p => { p with readers := p.readers + 1 }
  | .writer pipe => w.updatePipe pipe fun p => { p with writers := p.writers + 1 }
  | .file number => w.updateFile number fun f => { f with holders := f.holders + 1 }
  | _ => w

def release (w : World) (c : Channel) : World :=
  match c with
  | .reader pipe => w.updatePipe pipe fun p => { p with readers := p.readers - 1 }
  | .writer pipe => w.updatePipe pipe fun p => { p with writers := p.writers - 1 }
  | .file number => w.updateFile number fun f => { f with holders := f.holders - 1 }
  | _ => w

def reopenPipe (w : World) (pipe : Nat) (how : Access) : Except Errno Channel × World :=
  let c : Channel := if how.writes then .writer pipe else .reader pipe
  (.ok c, w.acquire c)

def reopen (w : World) (c : Channel) (how : Access) : Except Errno Channel × World :=
  match c with
  | .file number =>
    match w.files[number]? with
    | none => (.error .badDescriptor, w)
    | some f => w.openFound f.node false how
  | .reader pipe => w.reopenPipe pipe how
  | .writer pipe => w.reopenPipe pipe how
  | c => (.ok c, w)

/-- Opens a path, seen from a directory by a holder of some descriptors. The holder holds what is
answered. -/
def openPath (w : World) (held : Nat → Option Channel) (dir mask : Nat) (path : String)
    (how : Access) : Except Errno Channel × World :=
  match w.openNode dir mask path how with
  | .error e => (.error e, w)
  | .ok (id, new, w) =>
    match w.tree.node? id with
    | some (.device (.descriptor fd)) =>
      match held fd with
      | none => (.error .noEntry, w)
      | some c => w.reopen c how
    | _ => w.openFound id new how

/-- The content of a file after bytes were written at an offset. Bytes that were skipped are zero.
-/
def splice (content : Bytes) (offset : Nat) (bytes : Bytes) : Bytes :=
  content.take offset ++ List.replicate (offset - content.length) 0 ++ bytes
    ++ content.drop (offset + bytes.length)

theorem splice_nil (bytes : Bytes) : splice [] 0 bytes = bytes := by
  simp [splice]

theorem splice_zero (content bytes : Bytes) :
    splice content 0 bytes = bytes ++ content.drop bytes.length := by
  simp [splice]

theorem splice_length (content bytes : Bytes) :
    splice content content.length bytes = content ++ bytes := by
  simp [splice, List.drop_eq_nil_of_le]

def writeFile (w : World) (number : Nat) (bytes : Bytes) : Except Errno Unit × World :=
  match w.files[number]? with
  | none => (.error .badDescriptor, w)
  | some f =>
    if !f.writes then (.error .badDescriptor, w)
    else match w.tree.node? f.node with
      | some (.file content mode) =>
        let offset := if f.appends then content.length else f.offset
        let tree := w.tree.setNode f.node (.file (splice content offset bytes) mode)
        let f := { f with offset := offset + bytes.length }
        (.ok (), { w with tree, files := w.files.setIfInBounds number f })
      | some (.device .full) => (.error .noSpace, w)
      | _ => (.ok (), w)

/-- Writes bytes. A pipe takes them all. -/
def write (w : World) (c : Channel) (bytes : Bytes) : Except Errno Unit × World :=
  match c with
  | .output => (.ok (), { w with output := w.output.add bytes })
  | .errors => (.ok (), { w with errors := w.errors.add bytes })
  | .terminal => (.ok (), w)
  | .writer pipe =>
    match w.pipes[pipe]? with
    | none => (.error .badDescriptor, w)
    | some p =>
      if p.readers = 0 then (.error .brokenPipe, w)
      else (.ok (), w.updatePipe pipe fun p => { p with content := p.content.add bytes })
  | .file number => w.writeFile number bytes
  | .reader _ => (.error .badDescriptor, w)

/-- The bytes of an object from an offset on, at most so many. -/
def bytesAt (n : Node) (offset count : Nat) : Except Errno Bytes :=
  match n with
  | .file content _ => .ok ((content.drop offset).take count)
  | .directory _ => .error .isDirectory
  | .device .zero => .ok (List.replicate count 0)
  | .device .full => .ok (List.replicate count 0)
  | _ => .ok []

/-- Reads at most so many bytes of an open file. -/
def readFile (w : World) (number count : Nat) : Except Errno Bytes × World :=
  match w.files[number]? with
  | none => (.error .badDescriptor, w)
  | some f =>
    if !f.reads then (.error .badDescriptor, w)
    else match (w.tree.node? f.node).map fun n => bytesAt n f.offset count with
      | none => (.error .badDescriptor, w)
      | some (.error e) => (.error e, w)
      | some (.ok bytes) =>
        let f := { f with offset := f.offset + bytes.length }
        (.ok bytes, { w with files := w.files.setIfInBounds number f })

/-- Reads at most so many bytes of what there is. -/
def read (w : World) (c : Channel) (count : Nat) : Except Errno Bytes × World :=
  match c with
  | .terminal =>
    let (bytes, typed) := Terminal.read w.typed count
    (.ok bytes, { w with typed })
  | .reader pipe =>
    match w.pipes[pipe]? with
    | none => (.error .badDescriptor, w)
    | some p =>
      let (bytes, content) := p.content.take count
      (.ok bytes, w.updatePipe pipe fun p => { p with content })
  | .file number => w.readFile number count
  | _ => (.error .badDescriptor, w)

/-- The size of the file, the pipe or the line that a channel reads. -/
def available (w : World) (c : Channel) : Nat :=
  match c with
  | .terminal => (w.typed.headD []).length
  | .reader pipe => (w.pipes[pipe]?.map fun p => p.content.size).getD 0
  | .file number =>
    match w.files[number]?.bind fun f => w.tree.node? f.node with
    | some (.file content _) => content.length
    | _ => 0
  | _ => 0

/-- Reads what there is, up to the end of the line on a terminal. -/
def readAll (w : World) (c : Channel) : Except Errno Bytes × World :=
  w.read c (w.available c)

/-- Numbers of objects that have no path are counted from here. -/
def namelessNumber : Nat := 1000000000

def kindOf : Node → FileKind
  | .directory _ => .directory
  | .file _ _ => .regular
  | .link _ => .link
  | .device _ => .device
  | .tool _ => .regular

def directorySize : Nat := 4096

def describe (w : World) (id : Nat) : Except Errno FileInfo :=
  match w.tree.node? id with
  | none => .error .noEntry
  | some n =>
    let size := match n with
      | .file content _ => content.length
      | .link target => target.utf8ByteSize
      | .directory _ => directorySize
      | _ => 0
    .ok { number := id, kind := kindOf n, mode := n.mode, size }

def describeChannel (w : World) (c : Channel) : Except Errno FileInfo :=
  let nameless (kind : FileKind) (number : Nat) : FileInfo :=
    { number := namelessNumber + number, kind, mode := 0o600 }
  match c with
  | .file number =>
    match w.files[number]? with
    | none => .error .badDescriptor
    | some f => (w.describe f.node).map fun info => { info with appends := f.appends }
  | .output => .ok { nameless .regular 0 with size := w.output.size }
  | .errors => .ok { nameless .regular 1 with size := w.errors.size }
  | .terminal => .ok (nameless .terminal 2)
  | .reader pipe => .ok (nameless .pipe (3 + pipe))
  | .writer pipe => .ok (nameless .pipe (3 + pipe))

/-- Moves the position in an open file. Answers the new position. -/
def seek (w : World) (c : Channel) (offset : Int) (origin : Origin) :
    Except Errno Nat × World :=
  match c with
  | .file number =>
    match w.files[number]? with
    | none => (.error .badDescriptor, w)
    | some f =>
      let size := ((w.describe f.node).toOption.map FileInfo.size).getD 0
      let base : Nat := match origin with
        | .start => 0
        | .current => f.offset
        | .ending => size
      let target := (base : Int) + offset
      if target < 0 then (.error .invalidArgument, w)
      else
        let f := { f with offset := target.toNat }
        (.ok target.toNat, { w with files := w.files.setIfInBounds number f })
  | _ => (.error .cannotSeek, w)

end World

end ShellPipeline
