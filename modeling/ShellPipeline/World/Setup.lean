import ShellPipeline.World.Requests

/-!
# Setting up a world

Making directories, files and links in a tree, and the difference between two states of the files
below a directory.
-/

namespace ShellPipeline

/-- The files that a directory is to hold. -/
structure Layout where
  /-- Directories to make, with those above them. -/
  directories : List String := []
  /-- Regular files with their content and their permission bits. -/
  files : List (String × Bytes × Nat) := []
  links : List (String × String) := []
deriving Repr

namespace Tree

/-- The directory with a name in a directory, which is made if there is none. -/
def madeDirectory (t : Tree) (dir : Nat) (name : String) : Nat × Tree :=
  match t.walk false Path.maxLinks dir [name] false with
  | .ok (.found id) => (id, t)
  | _ => ((t.create dir name (.directory { parent := dir })).toOption).getD (dir, t)

/-- The directory that names lead to from a directory. Those that do not exist are made. -/
def madeDirectories (t : Tree) (dir : Nat) (names : List String) : Nat × Tree :=
  names.foldl (fun (dir, t) name => t.madeDirectory dir name) (dir, t)

def put (t : Tree) (dir : Nat) (path : String) (n : Node) : Tree :=
  let names := (Path.ofString path).names
  let (above, t) := t.madeDirectories dir names.dropLast
  match names.getLast? with
  | none => t
  | some name =>
    match t.walk false Path.maxLinks above [name] false with
    | .ok (.found id) => t.setNode id n
    | .ok (.vacant above name) => ((t.create above name n).toOption.map Prod.snd).getD t
    | .error _ => t

def fill (t : Tree) (dir : Nat) (l : Layout) : Tree :=
  let t := l.directories.foldl (fun t d => (t.madeDirectories dir (Path.ofString d).names).2) t
  let t := l.files.foldl (fun t (path, content, mode) => t.put dir path (.file content mode)) t
  l.links.foldl (fun t (path, target) => t.put dir path (.link target)) t

def standardDirectories : List String :=
  ["/dev", "/etc", "/home", "/proc", "/root", "/tmp", "/usr/bin", "/usr/lib", "/usr/local",
    "/usr/sbin", "/var"]

def foreignMode : Nat := 0o555

def standardDevices : List (String × Device) :=
  [("null", .null), ("zero", .zero), ("full", .full), ("stdin", .descriptor 0),
    ("stdout", .descriptor 1), ("stderr", .descriptor 2)]
  ++ (List.range 10).map fun fd => ("fd/" ++ decimal fd, .descriptor fd)

def lock (t : Tree) (path : String) : Tree :=
  match t.find 0 path with
  | .error _ => t
  | .ok id => (t.setMode id foreignMode).toOption.getD t

/-- The tree of a machine with tools and with a directory of the user at a path. Beside it the user
can only change what is below the directory for temporary files. -/
def ofTools (tools : List String) (place : String) : Nat × Tree :=
  let t : Tree := standardDirectories.foldl
    (fun t d => (t.madeDirectories 0 (Path.ofString d).names).2) {}
  let t := standardDevices.foldl (fun t (name, d) => t.put 0 ("/dev/" ++ name) (.device d)) t
  let t := tools.foldl (fun t name => t.put 0 ("/usr/bin/" ++ name) (.tool name)) t
  let t := [("bin", "usr/bin"), ("sbin", "usr/sbin"), ("lib", "usr/lib")].foldl
    (fun t (name, target) => t.put 0 ("/" ++ name) (.link target)) t
  let (home, t) := t.madeDirectories 0 (Path.ofString place).names
  (home, ("/" :: standardDirectories.filter (· ≠ "/tmp")).foldl lock t)

def contents (t : Tree) (dir : Nat) : List (String × Bytes × Nat) :=
  (t.filesBelow t.nodes.size dir).map fun (names, file) => ("/".intercalate names, file)

end Tree

/-- What became of a file. -/
structure Change where
  path : String
  /-- Its content and permission bits afterwards, if it is still there. -/
  after : Option (Bytes × Nat)
deriving DecidableEq, Repr

/-- The changes from one state of files to another. Permission bits may be left out of account. -/
def changes (modes : Bool) (before after : List (String × Bytes × Nat)) : List Change :=
  let same (a b : Bytes × Nat) : Bool := a.1 = b.1 && (!modes || a.2 = b.2)
  let kept := after.filter fun (path, file) => !(before.lookup path).any (same file)
  let gone := before.filter fun (path, _) => (after.lookup path).isNone
  kept.map (fun (path, file) => ⟨path, some file⟩) ++ gone.map (fun (path, _) => ⟨path, none⟩)

namespace World

/-- A world whose shell works in the directory at a path, which holds the given files. -/
def setUp (tools : List String) (place : String) (l : Layout) : World :=
  let (directory, tree) := Tree.ofTools tools place
  { tree := tree.fill directory l, directory, home := some place }

/-- Opens an object as the standard input of the shell. -/
def readingFrom (w : World) (id : Nat) : World :=
  let (input, w) := w.addFile { node := id }
  { w with input }

/-- Gives the shell bytes to read. If there are none it reads the empty device. -/
def feed (w : World) (bytes : Bytes) : World :=
  if bytes.isEmpty then w.readingFrom ((w.tree.find 0 "/dev/null").toOption.getD 0)
  else
    let (id, tree) := w.tree.addNameless (.file bytes createdMode)
    { w with tree }.readingFrom id

/-- Gives the shell a terminal on which bytes are typed, and the end of the input three times. -/
def attachTerminal (w : World) (bytes : Bytes) : World :=
  { w with input := .terminal, typed := Terminal.pieces (bytes ++ List.replicate 3 4) }

end World

end ShellPipeline
