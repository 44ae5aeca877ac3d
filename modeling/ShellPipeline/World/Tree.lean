import ShellPipeline.System.Errno
import ShellPipeline.Text.Utf8
import ShellPipeline.World.Path

/-!
# Trees of files

The files of a machine are objects with numbers: directories, regular files, symbolic links,
devices and tools. A directory names the objects in it and knows the directory above it. The
object with number zero is the root directory. A directory that was removed keeps its number and
is empty from then on, since a process may still work in it.

All objects belong to the one user of the machine, whose permission bits decide what can be done.
-/

namespace ShellPipeline

/-- A device. -/
inductive Device where
  | null
  | zero
  | full
  /-- Stands for a descriptor of the process that opens it. -/
  | descriptor (fd : Nat)
deriving DecidableEq, Repr

/-- A directory. -/
structure Directory where
  parent : Nat
  entries : List (String × Nat) := []
  mode : Nat := 0o777
  removed : Bool := false
deriving DecidableEq, Repr

/-- An object of a tree. -/
inductive Node where
  | directory (d : Directory)
  /-- A regular file with its permission bits. -/
  | file (content : Bytes) (mode : Nat)
  | link (target : String)
  | device (d : Device)
  /-- A tool of the machine, known by its name. -/
  | tool (name : String)
deriving DecidableEq, Repr

def readBit : Nat := 0o400

def writeBit : Nat := 0o200

/-- The permission bit of the owner to execute a file or to look up a name in a directory. -/
def searchBit : Nat := 0o100

def permits (mode bits : Nat) : Bool :=
  mode &&& bits != 0

def Node.mode : Node → Nat
  | directory d => d.mode
  | file _ mode => mode
  | link _ => 0o777
  | device _ => 0o666
  | tool _ => 0o555

/-- The objects of a machine, by number. -/
structure Tree where
  nodes : Array Node := #[.directory { parent := 0 }]
deriving DecidableEq, Repr

/-- Where a path leads. -/
inductive Place where
  | found (id : Nat)
  /-- To a name that is free in a directory. -/
  | vacant (dir : Nat) (name : String)
deriving DecidableEq, Repr

namespace Tree

def node? (t : Tree) (id : Nat) : Option Node :=
  t.nodes[id]?

def directory? (t : Tree) (id : Nat) : Option Directory :=
  match t.node? id with
  | some (.directory d) => some d
  | _ => none

def setNode (t : Tree) (id : Nat) (n : Node) : Tree :=
  ⟨t.nodes.setIfInBounds id n⟩

/-- The object that a name stands for in a directory. -/
def child? (id : Nat) (d : Directory) (name : String) : Option Nat :=
  if name = "." then some id
  else if name = ".." then some d.parent
  else d.entries.lookup name

def isDots (name : String) : Bool :=
  name = "." || name = ".."

/-- Follows names from a directory through at most `links` symbolic links. A last name with a
slash after it cannot be created. -/
def walk (t : Tree) (creating : Bool) (links dir : Nat) (names : List String) (closed : Bool) :
    Except Errno Place :=
  match names with
  | [] => .ok (.found dir)
  | name :: rest =>
    match t.directory? dir with
    | none => .error .notDirectory
    | some d =>
      if !permits d.mode searchBit then .error .accessDenied
      else if rest.isEmpty && closed && creating && !isDots name then .error .isDirectory
      else if Path.maxNameSize < name.utf8ByteSize then .error .nameTooLong
      else match child? dir d name with
        | none => if rest.isEmpty && !closed then .ok (.vacant dir name) else .error .noEntry
        | some id => match t.node? id with
          | some (.directory _) => t.walk creating links id rest closed
          | some (.link target) => match links with
            | 0 => .error .tooManyLinks
            | links + 1 =>
              let path := Path.ofString target
              t.walk creating links (if path.absolute then 0 else dir) (path.names ++ rest)
                (closed || rest.isEmpty && path.closed)
          | _ => if rest.isEmpty && !closed then .ok (.found id) else .error .notDirectory
termination_by (links, names.length)

def locate (t : Tree) (dir : Nat) (creating : Bool) (path : String) : Except Errno Place :=
  if path = "" then .error .noEntry
  else if Path.maxSize < path.utf8ByteSize then .error .nameTooLong
  else
    let p := Path.ofString path
    t.walk creating Path.maxLinks (if p.absolute then 0 else dir) p.names p.closed

/-- The object that a path leads to from a directory. -/
def find (t : Tree) (dir : Nat) (path : String) : Except Errno Nat :=
  match t.locate dir false path with
  | .error e => .error e
  | .ok (.found id) => .ok id
  | .ok (.vacant _ _) => .error .noEntry

/-- The directory that a path leads to from a directory. -/
def findDirectory (t : Tree) (dir : Nat) (path : String) : Except Errno Nat :=
  match t.find dir path with
  | .error e => .error e
  | .ok id =>
    match t.directory? id with
    | none => .error .notDirectory
    | some d => if permits d.mode searchBit then .ok id else .error .accessDenied

/-- The directory that holds the last name of a path, with that name and whether a slash follows
it. A path to the root directory has no last name. -/
def locateParent (t : Tree) (dir : Nat) (path : String) :
    Except Errno (Nat × Option String × Bool) :=
  if path = "" then .error .noEntry
  else if Path.maxSize < path.utf8ByteSize then .error .nameTooLong
  else
    let p := Path.ofString path
    let start := if p.absolute then 0 else dir
    match p.names.getLast? with
    | none => .ok (start, none, p.closed)
    | some name =>
      match t.walk false Path.maxLinks start p.names.dropLast true with
      | .error e => .error e
      | .ok (.vacant _ _) => .error .noEntry
      | .ok (.found above) =>
        match t.directory? above with
        | none => .error .notDirectory
        | some d =>
          if !permits d.mode searchBit then .error .accessDenied
          else if Path.maxNameSize < name.utf8ByteSize then .error .nameTooLong
          else .ok (above, some name, p.closed)

/-- The object at a path, of which a last link is not followed unless a slash follows it. -/
def findEntry (t : Tree) (dir : Nat) (path : String) : Except Errno Nat :=
  match t.locateParent dir path with
  | .error e => .error e
  | .ok (_, _, true) => t.find dir path
  | .ok (above, none, false) => .ok above
  | .ok (above, some name, false) =>
    match (t.directory? above).bind fun d => child? above d name with
    | none => .error .noEntry
    | some id => .ok id

def setEntries (t : Tree) (dir : Nat) (entries : List (String × Nat)) : Tree :=
  match t.directory? dir with
  | none => t
  | some d => t.setNode dir (.directory { d with entries })

def addEntry (t : Tree) (dir : Nat) (name : String) (id : Nat) : Except Errno Tree :=
  match t.directory? dir with
  | none => .error .notDirectory
  | some d =>
    if d.removed then .error .noEntry
    else if !permits d.mode writeBit then .error .accessDenied
    else .ok (t.setEntries dir (d.entries ++ [(name, id)]))

/-- Adds a new object to a directory under a free name. Answers its number. -/
def create (t : Tree) (dir : Nat) (name : String) (n : Node) : Except Errno (Nat × Tree) :=
  match t.addEntry dir name t.nodes.size with
  | .error e => .error e
  | .ok t => .ok (t.nodes.size, ⟨t.nodes.push n⟩)

/-- Adds an object that has no name. Answers its number. -/
def addNameless (t : Tree) (n : Node) : Nat × Tree :=
  (t.nodes.size, ⟨t.nodes.push n⟩)

/-- Finds the object that is to be written at a path, after creating a regular file with some
permission bits if there is none. Answers also whether it was created. -/
def findOutput (t : Tree) (dir : Nat) (path : String) (mode : Nat) :
    Except Errno (Nat × Bool × Tree) :=
  match t.locate dir true path with
  | .error e => .error e
  | .ok (.vacant dir name) =>
    (t.create dir name (.file [] mode)).map fun (id, t) => (id, true, t)
  | .ok (.found id) =>
    if (t.directory? id).isSome then .error .isDirectory else .ok (id, false, t)

def truncate (t : Tree) (id : Nat) : Tree :=
  match t.node? id with
  | some (.file _ mode) => t.setNode id (.file [] mode)
  | _ => t

def setMode (t : Tree) (id mode : Nat) : Except Errno Tree :=
  match t.node? id with
  | some (.file content _) => .ok (t.setNode id (.file content mode))
  | some (.directory d) => .ok (t.setNode id (.directory { d with mode }))
  | some _ => .error .notPermitted
  | none => .error .noEntry

/-- Takes the objects below a directory out of it, level by level. -/
def removeBelow (t : Tree) (depth id : Nat) : Tree :=
  match depth, t.directory? id with
  | depth + 1, some d =>
    d.entries.foldl (fun t e => t.removeBelow depth e.2)
      (t.setNode id (.directory { d with entries := [], removed := true }))
  | _, _ => t

def dropEntry (t : Tree) (dir : Nat) (name : String) : Tree :=
  match t.directory? dir with
  | none => t
  | some d => t.setEntries dir (d.entries.filter (·.1 ≠ name))

/-- Removes what a path leads to from a directory, with all that is below it. -/
def remove (t : Tree) (dir : Nat) (path : String) : Tree :=
  match t.locateParent dir path with
  | .ok (above, some name, _) =>
    match (t.directory? above).bind fun d => d.entries.lookup name with
    | none => t
    | some id => (t.dropEntry above name).removeBelow t.nodes.size id
  | _ => t

/-- The names from the root directory down to a directory, if it has not been removed. -/
def namesTo (t : Tree) : Nat → Nat → Option (List String)
  | _, 0 => some []
  | 0, _ => none
  | depth + 1, id =>
    match t.directory? id with
    | none => none
    | some d =>
      match (t.directory? d.parent).bind fun above => above.entries.find? (·.2 = id) with
      | none => none
      | some (name, _) => (t.namesTo depth d.parent).map (· ++ [name])

def pathOf (t : Tree) (id : Nat) : Except Errno String :=
  match t.namesTo t.nodes.size id with
  | none => .error .noEntry
  | some names => .ok ("/" ++ "/".intercalate names)

/-- The regular files below a directory, each with the names that lead to it, its content and its
permission bits. -/
def filesBelow (t : Tree) : Nat → Nat → List (List String × Bytes × Nat)
  | 0, _ => []
  | depth + 1, id =>
    match t.node? id with
    | some (.file content mode) => [([], content, mode)]
    | some (.directory d) =>
      d.entries.flatMap fun (name, child) =>
        (t.filesBelow depth child).map fun (names, file) => (name :: names, file)
    | _ => []

end Tree

end ShellPipeline
