import ShellPipeline.Tool.Collation
import ShellPipeline.Tool.Detail
import ShellPipeline.Tool.Option
import ShellPipeline.Tool.Part
import ShellPipeline.Tool.Quote

/-!
# Listing directories

`ls` writes the names in directories in an order, one on a line, in columns, or separated by commas.
A name may carry a mark for the kind of its object or stand after details of it, and the directories
below may follow.
-/

namespace ShellPipeline

/-- How names are arranged. -/
inductive Arrangement where
  | lines
  /-- In columns that are filled one after the other. -/
  | columns
  /-- In columns that are filled line by line. -/
  | rows
  | commas
  | long
deriving DecidableEq, Repr

/-- How names are written. -/
inductive NameStyle where
  | plain
  /-- With question marks for what cannot be seen. -/
  | hidden
  | quoted
  | escaped
deriving DecidableEq, Repr

/-- Which marks names carry. -/
inductive Marking where
  | none
  | directories
  | kinds
  | all
deriving DecidableEq, Repr

/-- The order of names. -/
inductive NameOrder where
  | name
  /-- By the sizes of the objects, the largest first. -/
  | size
  | ending
  | version
  | width
  | none
deriving DecidableEq, Repr

/-- What `ls` is asked for. -/
structure ListOptions where
  /-- Whether names that begin with a dot are listed. -/
  all : Bool := false
  /-- Whether they are listed but for the directory and the one above it. -/
  almostAll : Bool := false
  /-- Whether names that end with a tilde are left out. -/
  skipsBackups : Bool := false
  directoriesOnly : Bool := false
  recursive : Bool := false
  reversed : Bool := false
  follows : Option Bool := none
  directoriesFirst : Bool := false
  order : NameOrder := .name
  arrangement : Arrangement := .lines
  style : NameStyle := .plain
  marking : Marking := .none
  /-- The width of a line, or zero if it does not end. -/
  width : Nat := 80
  /-- Whether it is shown how much of the disk files take. -/
  showsDiskSize : Bool := false
  showsOwner : Bool := true
  showsGroup : Bool := true
  /-- How the user is called to whom all files belong. -/
  userName : String := "root"

/-- A name that is listed. -/
structure Listed where
  name : String
  info : Option FileInfo := none
  /-- Whether it is a directory, or a link to one where that matters. -/
  isDirectory : Bool := false
  /-- Where it leads if it is a link and that is asked for. -/
  target : Option String := none

namespace ListOptions

def known : KnownOptions where
  letters := [('I', .always), ('T', .always), ('w', .always)]
    ++ KnownOptions.ofLetters "abcdfghiklmnopqrstuvxABCDFGHLNQRSUXZ1"
  names := [("all", .never, "a"), ("almost-all", .never, "A"), ("author", .never, ""),
    ("block-size", .always, ""), ("classify", .perhaps, "classify"), ("color", .perhaps, ""),
    ("context", .never, ""), ("dereference", .never, "L"),
    ("dereference-command-line", .never, "H"),
    ("dereference-command-line-symlink-to-dir", .never, ""), ("directory", .never, "d"),
    ("dired", .never, ""), ("escape", .never, "b"), ("file-type", .never, "file-type"),
    ("format", .always, "format"), ("full-time", .never, ""),
    ("group-directories-first", .never, "group"), ("hide", .always, ""),
    ("hide-control-chars", .never, "q"), ("human-readable", .never, ""),
    ("hyperlink", .perhaps, ""), ("ignore", .always, ""), ("ignore-backups", .never, "B"),
    ("indicator-style", .always, "indicator"), ("inode", .never, ""), ("kibibytes", .never, ""),
    ("literal", .never, "N"), ("no-group", .never, "G"), ("numeric-uid-gid", .never, "n"),
    ("quote-name", .never, "Q"), ("quoting-style", .always, "quoting"), ("recursive", .never, "R"),
    ("reverse", .never, "r"), ("show-control-chars", .never, "N"), ("si", .never, ""),
    ("size", .never, "s"), ("sort", .always, "sort"), ("tabsize", .always, ""),
    ("time", .always, ""), ("time-style", .always, ""), ("width", .always, "w"),
    ("zero", .never, "")]

def formats : List (String × String) :=
  [("verbose", "l"), ("long", "l"), ("commas", "m"), ("horizontal", "x"), ("across", "x"),
    ("vertical", "C"), ("single-column", "1")]

def sorts : List (String × String) :=
  [("none", "U"), ("size", "S"), ("time", "t"), ("version", "v"), ("extension", "X"),
    ("width", "width")]

def indicators : List (String × String) :=
  [("none", "none"), ("slash", "p"), ("file-type", "file-type"), ("classify", "F")]

def moments : List (String × String) :=
  [("always", "yes"), ("yes", "yes"), ("force", "yes"), ("never", "no"), ("no", "no"),
    ("none", "no"), ("auto", "no"), ("tty", "no"), ("if-tty", "no")]

def quotings : List (String × String) :=
  [("literal", "N"), ("shell", "N"), ("shell-always", "N"), ("shell-escape", "N"),
    ("shell-escape-always", "N"), ("c", "Q"), ("c-maybe", "N"), ("escape", "b"), ("locale", "Q"),
    ("clocale", "Q")]

def useLetter (o : ListOptions) (key : String) : ListOptions :=
  match key with
  | "a" => { o with all := true }
  | "A" => { o with almostAll := true, all := false }
  | "B" => { o with skipsBackups := true }
  | "b" => { o with style := .escaped }
  | "C" => { o with arrangement := .columns }
  | "d" => { o with directoriesOnly := true }
  | "f" =>
    let arrangement := if o.arrangement = .long then .lines else o.arrangement
    { o with all := true, order := .none, arrangement, showsDiskSize := false }
  | "F" => { o with marking := .all }
  | "file-type" => { o with marking := .kinds }
  | "g" => { o with arrangement := .long, showsOwner := false }
  | "G" => { o with showsGroup := false }
  | "group" => { o with directoriesFirst := true }
  | "H" => { o with follows := some false }
  | "L" => { o with follows := some true }
  | "l" => { o with arrangement := .long }
  | "m" => { o with arrangement := .commas }
  | "n" => { o with arrangement := .long, userName := "0" }
  | "N" => { o with style := .plain }
  | "none" => { o with marking := .none }
  | "o" => { o with arrangement := .long, showsGroup := false }
  | "p" => { o with marking := .directories }
  | "q" => { o with style := .hidden }
  | "Q" => { o with style := .quoted }
  | "R" => { o with recursive := true }
  | "r" => { o with reversed := true }
  | "S" => { o with order := .size }
  | "s" => { o with showsDiskSize := true }
  | "U" => { o with order := .none }
  | "v" => { o with order := .version }
  | "X" => { o with order := .ending }
  | "x" => { o with arrangement := .rows }
  | "1" => if o.arrangement = .long then o else { o with arrangement := .lines }
  | "width" => { o with order := .width }
  | _ => o

def use (o : ListOptions) (key value : String) : Job ListOptions := do
  match key with
  | "format" => return o.useLetter (← Job.choose "--format" formats value)
  | "sort" => return o.useLetter (← Job.choose "--sort" sorts value)
  | "indicator" => return o.useLetter (← Job.choose "--indicator-style" indicators value)
  | "quoting" => return o.useLetter (← Job.choose "--quoting-style" quotings value)
  | "classify" =>
    if value = "" then return o.useLetter "F"
    let when' ← Job.choose "--classify" moments value
    return if when' = "yes" then o.useLetter "F" else o
  | "w" =>
    match readDecimal? value.toList with
    | some n => return { o with width := n }
    | none => Job.fail ("invalid line width: " ++ Quote.value value)
  | _ => return o.useLetter key

/-- Whether a link on the command line is followed wherever it leads. -/
def followsNamed (o : ListOptions) : Bool :=
  o.follows.isSome

/-- Whether a link on the command line is followed if it leads to a directory. -/
def followsToDirectory (o : ListOptions) : Bool :=
  o.follows.isNone && !o.directoriesOnly && o.marking != .all && o.arrangement != .long

/-- A character of a name between double quotes or with escapes. -/
def styledChar (quotes : Bool) (c : Char) : List Char :=
  if c = '\\' then ['\\', '\\']
  else if quotes && c = '"' then ['\\', '"']
  else if !quotes && c = ' ' then ['\\', ' ']
  else if Quote.isPlain c then [c]
  else Quote.controlEscape c

def writeName (o : ListOptions) (name : String) : String :=
  match o.style with
  | .plain => name
  | .hidden => String.ofList (name.toList.map fun c => if Quote.isPlain c then c else '?')
  | .quoted => "\"" ++ String.ofList (name.toList.flatMap (styledChar true)) ++ "\""
  | .escaped => String.ofList (name.toList.flatMap (styledChar false))

def mark (o : ListOptions) (l : Listed) : String :=
  match o.marking, l.info with
  | .none, _ => ""
  | _, none => ""
  | m, some info =>
    match info.kind with
    | .directory => "/"
    | .link => if m = .directories || o.arrangement = .long then "" else "@"
    | .pipe => if m = .directories then "" else "|"
    | .regular => if m = .all && info.mode &&& 0o111 != 0 then "*" else ""
    | _ => ""

def written (o : ListOptions) (l : Listed) : String :=
  o.writeName l.name ++ o.mark l

/-- Whether more than the name of an object has to be known. -/
def needsInfo (o : ListOptions) : Bool :=
  o.marking != .none || o.recursive || o.order = .size || o.directoriesFirst
    || o.arrangement = .long || o.showsDiskSize

def endingOf (name : String) : List Char :=
  let reversed := name.toList.reverse
  let ending := reversed.takeWhile (· != '.')
  if ending.length = reversed.length then [] else '.' :: ending.reverse

def compareListed (o : ListOptions) (a b : Listed) : Ordering :=
  let byName := Collation.compareChars a.name.toList b.name.toList
  let sizeOf (l : Listed) : Nat := (l.info.map FileInfo.size).getD 0
  let order := match o.order with
    | .name => byName
    | .size => (compare (sizeOf b) (sizeOf a)).then byName
    | .ending => (Collation.compareChars (endingOf a.name) (endingOf b.name)).then byName
    | .version => (Collation.compareVersions a.name.toList b.name.toList).then byName
    | .width => (compare a.name.length b.name.length).then byName
    | .none => .eq
  let order := if o.reversed then order.swap else order
  let rank (l : Listed) : Nat := if l.isDirectory then 0 else 1
  if o.directoriesFirst then (compare (rank a) (rank b)).then order else order

def arrange (o : ListOptions) (ls : List Listed) : List Listed :=
  if o.order = .none then ls
  else ls.mergeSort fun a b => o.compareListed a b != .gt

/-- Blanks from a column to another one, with tabulators if they are wanted. -/
def indent (tabs : Bool) : Nat → Nat → Nat → List Char
  | 0, _, _ => []
  | steps + 1, start, target =>
    if target ≤ start then []
    else if tabs && (start + 1) / 8 < target / 8 then
      '\t' :: indent tabs steps (start + (8 - start % 8)) target
    else ' ' :: indent tabs steps (start + 1) target

def columnWidths (filled : Bool) (count : Nat) (sizes : List Nat) : List Nat :=
  let n := sizes.length
  let rows := (n + count - 1) / count
  let column (i : Nat) : Nat := if filled then i / rows else i % count
  let placed := sizes.mapIdx fun i size =>
    let c := column i
    (c, if c + 1 = count then size else size + 2)
  (List.range count).map fun c =>
    placed.foldl (fun w x => if x.1 = c then max w x.2 else w) 3

/-- The largest number of columns that fit into a line, from a number of them downwards. -/
def fittingColumns (width : Nat) (filled : Bool) (sizes : List Nat) : Nat → Nat
  | 0 => 1
  | 1 => 1
  | count + 1 =>
    if (columnWidths filled (count + 1) sizes).foldl (· + ·) 0 < width then count + 1
    else fittingColumns width filled sizes count

def columnLine (tabs : Bool) (widths : List Nat) : Nat → List (List Char) → List Char
  | _, [] => ['\n']
  | _, [name] => name ++ ['\n']
  | at', name :: rest =>
    let width := widths.headD 3
    name ++ indent tabs width (at' + name.length) (at' + width)
      ++ columnLine tabs (widths.drop 1) (at' + width) rest

def inColumns (o : ListOptions) (filled : Bool) (names : List (List Char)) : List Char :=
  let sizes := names.map List.length
  let n := names.length
  let width := if o.width = 0 then 1000000000 else o.width
  let most := min n (max 1 (width / 3))
  let count := fittingColumns width filled sizes most
  let widths := columnWidths filled count sizes
  let rows := (n + count - 1) / count
  (List.range rows).flatMap fun row =>
    let line := (List.range count).filterMap fun c =>
      names[if filled then row + c * rows else row * count + c]?
    columnLine (o.width != 0) widths 0 line

def withCommas (width : Nat) : Nat → List (List Char) → List Char
  | _, [] => ['\n']
  | _, [name] => name ++ ['\n']
  | column, name :: next :: rest =>
    let column := column + name.length
    if width = 0 || column + next.length + 2 < width then
      name ++ [',', ' '] ++ withCommas width (column + 2) (next :: rest)
    else name ++ [',', '\n'] ++ withCommas width 0 (next :: rest)

/-- The sum of what files take on the disk, if it is shown. -/
def totalLine (o : ListOptions) (ls : List Listed) : String :=
  if o.arrangement = .long || o.showsDiskSize then
    let sizes := ls.map fun l => (l.info.map FileInfo.diskSize).getD 0
    "total " ++ decimal (sizes.foldl (· + ·) 0) ++ "\n"
  else ""

/-- The texts with blanks before them, so that all are equally wide. -/
def alignAll (texts : List (List Char)) : List (List Char) :=
  let width := texts.foldl (fun w t => max w t.length) 0
  texts.map (alignRight width)

/-- What files take on the disk, before each of their names if it is shown. -/
def diskSizes (o : ListOptions) (ls : List Listed) : List (List Char) :=
  if o.showsDiskSize then
    let texts := ls.map fun l => (l.info.map fun i => decimalDigits i.diskSize).getD ['?']
    (if o.arrangement = .commas then texts else alignAll texts).map (· ++ [' '])
  else ls.map fun _ => []

def date : String := "Jan  1 00:00"

/-- The number of paths that lead to an object. A directory has one of its own. -/
def pathCount (i : FileInfo) : List Char :=
  if i.kind = .directory then ['2'] else ['1']

def details (o : ListOptions) (ls : List Listed) : List (List Char) :=
  let column (f : FileInfo → List Char) : List (List Char) :=
    alignAll (ls.map fun l => (l.info.map f).getD ['?'])
  let user (shows : Bool) : List Char := if shows then (o.userName ++ " ").toList else []
  let users := user o.showsOwner ++ user o.showsGroup
  let counts := column pathCount
  let sizes := column fun i => decimalDigits i.shownSize
  let modes := ls.map fun l => (l.info.map FileInfo.modeText).getD ("?????????".toList)
  modes.zip (counts.zip sizes) |>.map fun (mode, count, size) =>
    mode ++ [' '] ++ count ++ [' '] ++ users ++ size ++ [' '] ++ date.toList ++ [' ']

/-- Where a link leads, as it is written after its name. -/
def arrow (o : ListOptions) (l : Listed) : List Char :=
  l.target.elim [] fun target => (" -> " ++ o.writeName target).toList

def display (o : ListOptions) (ls : List Listed) : List Char :=
  let names := (o.diskSizes ls).zip ls |>.map fun (size, l) => size ++ (o.written l).toList
  if names.isEmpty then []
  else match o.arrangement with
    | .lines => names.flatMap (· ++ ['\n'])
    | .columns => o.inColumns true names
    | .rows => o.inColumns false names
    | .commas => withCommas o.width 0 names
    | .long =>
      (o.diskSizes ls).zip ((o.details ls).zip ls) |>.flatMap fun (size, detail, l) =>
        size ++ detail ++ (o.written l).toList ++ o.arrow l ++ ['\n']

def shows (o : ListOptions) (name : String) : Bool :=
  (o.all || o.almostAll || !name.startsWith ".") && !(o.skipsBackups && name.endsWith "~")

end ListOptions

namespace Tool

def joinPath (dir name : String) : String :=
  if dir.endsWith "/" then dir ++ name else dir ++ "/" ++ name

/-- A name with what is known of the object at a path. A link to a directory counts as a directory
if those come first. -/
def listedAs (o : ListOptions) (path name : String) (info : FileInfo) : Job Listed := do
  if o.directoriesFirst && info.kind = .link then
    let target ← (Task.call (.describe path true) : Task _)
    return { name, info := some info, isDirectory := target.toOption.any (·.kind = .directory) }
  if o.arrangement = .long && info.kind = .link then
    let target ← (Task.call (.readLink path) : Task _)
    return { name, info := some info, target := target.toOption }
  return { name, info := some info, isDirectory := info.kind = .directory }

/-- A name in a directory with what is known of it. -/
def inspect (o : ListOptions) (dir name : String) : Job (Listed × Bool) := do
  if !o.needsInfo then return ({ name }, true)
  let follow := o.follows = some true
  match ← (Task.call (.describe (joinPath dir name) follow) : Task _) with
  | .ok info => return (← listedAs o (joinPath dir name) name info, true)
  | .error e =>
    let path := if dir = "." then name else joinPath dir name
    Job.complainOf ("cannot access " ++ Quote.name path) e
    return ({ name }, false)

/-- Lists a directory with those below it, up to a depth. Answers the code. -/
def listDirectory (o : ListOptions) (titled : Bool) : Nat → Bool → Nat → String → Job Nat
  | 0, _, _, _ => pure 0
  | depth + 1, first, failure, dir => do
    match ← (Task.call (.list dir) : Task _) with
    | .error e =>
      Job.complainOf ("cannot open directory " ++ Quote.name dir) e
      return failure
    | .ok names =>
      let names := names.filter o.shows
      let names := if o.all then "." :: ".." :: names else names
      let mut code := 0
      let mut listed : List Listed := []
      for name in names do
        let (l, fine) ← inspect o dir name
        listed := l :: listed
        unless fine do code := 1
      let sorted := o.arrange listed.reverse
      if titled then Job.print ((if first then "" else "\n") ++ o.writeName dir ++ ":\n")
      Job.print (o.totalLine sorted)
      Job.put (bytesOfChars (o.display sorted))
      if o.recursive then
        for l in sorted do
          if l.name != "." && l.name != ".." && l.info.any (·.kind = .directory) then
            code := max code (← listDirectory o titled depth false 1 (joinPath dir l.name))
      return code

/-- What is known of a path on the command line. -/
def inspectNamed (o : ListOptions) (path : String) : Job (Except Errno FileInfo) := do
  if o.followsNamed then return ← (Task.call (.describe path true) : Task _)
  if o.followsToDirectory then
    match ← (Task.call (.describe path true) : Task _) with
    | .ok info => if info.kind = .directory then return .ok info
    | .error e => if e != .noEntry then return .error e
  return ← (Task.call (.describe path false) : Task _)

def maxDepth : Nat := 4096

def ls : Tool :=
  Job.toTool 2 fun words _ => do
    let (o, words) ← Job.readOptions ListOptions.known words ({} : ListOptions) ListOptions.use
    let paths := if words.isEmpty then ["."] else words
    let mut code := 0
    let mut files : List Listed := []
    let mut directories : List Listed := []
    for path in paths do
      match ← inspectNamed o path with
      | .error e =>
        Job.complainOf ("cannot access " ++ Quote.name path) e
        code := 2
      | .ok info =>
        let l ← listedAs o path path info
        if info.kind = .directory && !o.directoriesOnly then directories := l :: directories
        else files := l :: files
    Job.put (bytesOfChars (o.display (o.arrange files.reverse)))
    let titled := o.recursive || 1 < paths.length
    let mut first := files.isEmpty
    for l in o.arrange directories.reverse do
      code := max code (← listDirectory o titled maxDepth first 2 l.name)
      first := false
    return code

end Tool

end ShellPipeline
