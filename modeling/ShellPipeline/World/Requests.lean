import ShellPipeline.Run.Host
import ShellPipeline.World.Basic

/-!
# Requests of the shell

What becomes of the world when the shell opens a file, makes a pipe or closes a descriptor. A path
that holds a NUL is never looked up, and neither is any path when there are no descriptors left.
-/

namespace ShellPipeline

namespace World

/-- Why a path is refused before it is looked up. -/
def refusal? (w : World) (path : String) : Option PathFault :=
  if hasNul path then some .nulInPath
  else if w.limits.noDescriptors && path ≠ "" && path.utf8ByteSize ≤ Path.maxSize then
    some (.errno .tooManyOpenFiles)
  else none

def standardStream (w : World) : Nat → Option Channel
  | 0 => some w.input
  | 1 => some .output
  | 2 => some .errors
  | _ => none

def openAs (w : World) (path : String) (how : Access) : Except PathFault Channel × World :=
  match w.refusal? path with
  | some f => (.error f, w)
  | none =>
    let (outcome, w) := w.openPath w.standardStream w.directory w.mask path how
    (outcome.mapError .errno, w)

def openInput (path : String) (w : World) : Except PathFault Channel × World :=
  w.openAs path .reading

/-- The permission bits of the files that the shell creates. -/
def createdMode : Nat := 0o644

def openOutput (mode : WriteMode) (path : String) (w : World) :
    Except PathFault Channel × World :=
  w.openAs path
    { writes := true, creates := some createdMode, truncates := mode == WriteMode.truncate,
      appends := mode == WriteMode.append }

def makePipe (w : World) : Except Errno (Channel × Channel) × World :=
  if w.limits.noDescriptors then (.error .tooManyOpenFiles, w)
  else
    let (ends, w) := w.addPipe
    (.ok ends, w)

def enter (path : String) (w : World) : Except PathFault Unit × World :=
  if hasNul path then (.error .nulInPath, w)
  else match w.tree.findDirectory w.directory path with
    | .error e => (.error (.errno e), w)
    | .ok directory => (.ok (), { w with directory })

end World

end ShellPipeline
