import ShellPipeline.Machine.Paths
import ShellPipeline.Machine.Signals

/-!
# Answers to calls

What a machine answers to a call of a process, and what becomes of the machine. Some calls cannot
be answered yet: reading a pipe that is empty, writing a pipe that is full, and waiting for a child
that goes on.
-/

namespace ShellPipeline

namespace Machine

def pipeSize : Nat := 65536

/-- The most bytes that a pipe takes all at once or not at all. -/
def wholeSize : Nat := 4096

def descriptorLimit : Nat := 1024

def space (w : World) (pipe : Nat) : Nat :=
  pipeSize - (w.pipes[pipe]?.elim 0 fun p => p.content.size)

def isBroken (w : World) (pipe : Nat) : Bool :=
  w.pipes[pipe]?.all fun p => p.readers = 0

/-- Whether bytes can be read from a channel, or the end of the input can. -/
def canRead (w : World) : Channel → Bool
  | .reader pipe => w.pipes[pipe]?.all fun p => p.content.size != 0 || p.writers = 0
  | _ => true

/-- The number of bytes that a channel takes now, out of so many. -/
def takes (w : World) (c : Channel) (count : Nat) : Nat :=
  match c with
  | .writer pipe =>
    let free := space w pipe
    if count ≤ free then count else if count ≤ wholeSize then 0 else free
  | _ => count

def setDescriptors (m : Machine) (p : Process) (descriptors : Descriptors Channel) : Machine :=
  m.update p.number fun p => { p with descriptors }

/-- Gives a channel that is held already the lowest descriptor from a number on. -/
def install (m : Machine) (p : Process) (least : Nat) (c : Channel) : Nat × Machine :=
  let fd := least + Descriptors.firstFree (p.descriptors.slots.drop least)
  (fd, m.setDescriptors p (p.descriptors.put fd c))

def read (m : Machine) (p : Process) (fd count : Nat) : Option (Except Errno Bytes × Machine) :=
  match p.descriptors.get? fd with
  | none => some (.error .badDescriptor, m)
  | some c =>
    if canRead m.world c then some (m.onWorld (·.read c count))
    else if p.arrived.isEmpty then none
    else some (.error .interrupted, m)

def openFile (m : Machine) (p : Process) (path : String) (how : Access) :
    Except Errno Nat × Machine :=
  let (outcome, m) := m.onWorld
    (·.openPath p.descriptors.get? p.directory p.mask (textOfWord path) how)
  match outcome with
  | .error e => (.error e, m)
  | .ok c =>
    let (fd, m) := m.install p 0 c
    (.ok fd, m)

def close (m : Machine) (p : Process) (fd : Nat) : Except Errno Unit × Machine :=
  match p.descriptors.get? fd with
  | none => (.error .badDescriptor, m)
  | some c =>
    let m := { m with world := m.world.release c }
    (.ok (), m.setDescriptors p (p.descriptors.close fd))

def duplicate (m : Machine) (p : Process) (fd least : Nat) : Except Errno Nat × Machine :=
  match p.descriptors.get? fd with
  | none => (.error .badDescriptor, m)
  | some c =>
    if descriptorLimit ≤ least then (.error .invalidArgument, m)
    else
      let (fd, m) := { m with world := m.world.acquire c }.install p least c
      (.ok fd, m)

/-- Gives the object of a descriptor a certain descriptor too. -/
def duplicateTo (m : Machine) (p : Process) (fd target : Nat) : Except Errno Unit × Machine :=
  match p.descriptors.get? fd with
  | none => (.error .badDescriptor, m)
  | some c =>
    if descriptorLimit ≤ target then (.error .badDescriptor, m)
    else if fd = target then (.ok (), m)
    else
      let w := m.world.acquire c
      let w := (p.descriptors.get? target).elim w w.release
      (.ok (), { m with world := w }.setDescriptors p (p.descriptors.put target c))

def makePipe (m : Machine) (p : Process) : Except Errno (Nat × Nat) × Machine :=
  let ((reader, writer), world) := m.world.addPipe
  let (readEnd, descriptors) := p.descriptors.add reader
  let (writeEnd, descriptors) := descriptors.add writer
  (.ok (readEnd, writeEnd), { m with world }.setDescriptors p descriptors)

def enter (m : Machine) (p : Process) (path : String) : Except Errno Unit × Machine :=
  match m.world.tree.findDirectory p.directory (textOfWord path) with
  | .error e => (.error e, m)
  | .ok directory => (.ok (), m.update p.number fun p => { p with directory })

def describe (m : Machine) (p : Process) (path : String) (follow : Bool) :
    Except Errno FileInfo :=
  let path := textOfWord path
  let t := m.world.tree
  (if follow then t.find p.directory path else t.findEntry p.directory path).bind m.world.describe

/-- Changes the permission bits of the object at a path. -/
def changeMode (m : Machine) (p : Process) (path : String) (mode : Nat) :
    Except Errno Unit × Machine :=
  m.onTree fun t => do t.setMode (← t.find p.directory (textOfWord path)) mode

def candidates (m : Machine) (p : Process) (child : Option Nat) : List Process :=
  m.processes.filter fun q => q.parent = p.number && child.all (q.number = ·)

def awaitChild (m : Machine) (p : Process) (child : Option Nat) (waits : Bool) :
    Option (Except Errno (Option (Nat × Exit)) × Machine) :=
  let candidates := m.candidates p child
  let ended := candidates.findSome? fun q => match q.phase with
    | .ended exit => some (q.number, exit)
    | _ => none
  match ended with
  | some (number, exit) =>
    let processes := m.processes.filter (·.number != number)
    some (.ok (some (number, exit)), { m with processes })
  | none =>
    if candidates.isEmpty then some (.error .noChild, m)
    else if !waits then some (.ok none, m)
    else if p.arrived.isEmpty then none
    else some (.error .interrupted, m)

def handle (m : Machine) (p : Process) (s : Signal) (action : SignalAction) :
    SignalAction × Machine :=
  let others := p.actions.filter (·.1 != s)
  let actions := if action = .standard then others else (s, action) :: others
  (p.action s, m.update p.number fun p => { p with actions })

/-- The answer to a call, if it can be given. -/
def reply (m : Machine) (p : Process) : (c : SystemCall) → Option (Answer c × Machine)
  | .read fd count => m.read p fd count
  | .openFile path how => some (m.openFile p path how)
  | .close fd => some (m.close p fd)
  | .duplicate fd least => some (m.duplicate p fd least)
  | .duplicateTo fd target => some (m.duplicateTo p fd target)
  | .makePipe => some (m.makePipe p)
  | .seek fd offset origin =>
    some (match p.descriptors.get? fd with
      | none => (.error .badDescriptor, m)
      | some c => m.onWorld (·.seek c offset origin))
  | .describe path follow => some (m.describe p path follow, m)
  | .describeOpen fd =>
    some ((p.descriptors.get? fd).elim (.error .badDescriptor) m.world.describeChannel, m)
  | .list path =>
    some ((m.world.tree.list p.directory (textOfWord path)).map (·.map wordOfText), m)
  | .enter path => some (m.enter p path)
  | .directory => some ((m.world.tree.pathOf p.directory).map wordOfText, m)
  | .rename path target =>
    some (m.onTree (·.rename p.directory (textOfWord path) (textOfWord target)))
  | .readLink path =>
    some ((m.world.tree.readLink p.directory (textOfWord path)).map wordOfText, m)
  | .changeMode path mode => some (m.changeMode p path mode)
  | .mask bits => some (p.mask, m.update p.number fun p => { p with mask := bits.getD p.mask })
  | .awaitChild child waits => m.awaitChild p child waits
  | .signal number s => some (m.send number s)
  | .handle s action => some (m.handle p s action)
  | .arrived => some (p.arrived, m.update p.number fun p => { p with arrived := [] })
  | .sleep _ => some ((), m)
  | .identity => some ((p.number, p.parent), m)

end Machine

end ShellPipeline
