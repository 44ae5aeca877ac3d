import ShellPipeline.Text.Lines
import ShellPipeline.Tool.Option
import ShellPipeline.Tool.Part

/-!
# Counting

`wc` counts the lines, words, characters and bytes of files, and the width of their longest lines.
A word holds something that can be seen.
-/

namespace ShellPipeline

/-- What was counted. -/
structure Counts where
  lines : Nat := 0
  words : Nat := 0
  bytes : Nat := 0
  width : Nat := 0
deriving DecidableEq, Repr

/-- What was counted, and where the counting stands. -/
structure Counting where
  counts : Counts := {}
  inWord : Bool := false
  /-- The width of the line that goes on. -/
  column : Nat := 0

namespace Counts

def add (a b : Counts) : Counts where
  lines := a.lines + b.lines
  words := a.words + b.words
  bytes := a.bytes + b.bytes
  width := max a.width b.width

end Counts

namespace Counting

def endWord (s : Counting) (column : Nat) : Counting :=
  { s with inWord := false, column }

def endRow (s : Counting) : Counting :=
  { s with counts := { s.counts with width := max s.counts.width s.column } }.endWord 0

def step (s : Counting) (b : UInt8) : Counting :=
  let s := { s with counts := { s.counts with bytes := s.counts.bytes + 1 } }
  if b = 10 then
    { s with counts := { s.counts with lines := s.counts.lines + 1 } }.endRow
  else if b = 13 || b = 12 then s.endRow
  else if b = 9 then s.endWord (s.column + (8 - s.column % 8))
  else if b = 32 then s.endWord (s.column + 1)
  else if b = 11 then s.endWord s.column
  else if 32 < b && b < 127 then
    let words := if s.inWord then s.counts.words else s.counts.words + 1
    { s with counts := { s.counts with words }, inWord := true, column := s.column + 1 }
  else s

def finish (s : Counting) : Counts :=
  s.endRow.counts

end Counting

namespace Tool

/-- The counts that can be asked for, in the order in which they are written. -/
def counters : List (String × (Counts → Nat)) :=
  [("l", Counts.lines), ("w", Counts.words), ("m", Counts.bytes), ("c", Counts.bytes),
    ("L", Counts.width)]

/-- What `wc` is asked for. -/
structure CountOptions where
  asked : List String := []
  /-- When the counts of all files together are written. -/
  total : String := "auto"

def countOptions : KnownOptions where
  letters := KnownOptions.ofLetters "clLmw"
  names := [("bytes", .never, "c"), ("chars", .never, "m"), ("lines", .never, "l"),
    ("words", .never, "w"), ("debug", .never, ""), ("files0-from", .always, "files0-from"),
    ("max-line-length", .never, "L"), ("total", .always, "total")]

/-- When the counts of all files together can be written. -/
def totalChoices : List (String × String) :=
  ["auto", "always", "only", "never"].map fun c => (c, c)

/-- Counts in a line of their own, each at least so wide. -/
def countLine (width : Nat) (counts : List Nat) (name : String) : String :=
  let shown := counts.map fun n =>
    let digits := decimal n
    String.ofList (List.replicate (width - digits.length) ' ') ++ digits
  " ".intercalate shown ++ (if name = "" then "" else " " ++ name) ++ "\n"

/-- What is known of a file before it is read. -/
def infoOf (path : String) : Job (Option FileInfo) := do
  if path = "-" then return (← (Task.call (.describeOpen 0) : Task _)).toOption
  else return (← (Task.call (.describe path true) : Task _)).toOption

/-- The width of the counts of files. The sizes of regular files decide it, and anything else
makes it wide. -/
def countWidth (infos : List (Option FileInfo)) : Nat :=
  let known := infos.filterMap id
  let total := (known.filter (·.kind = .regular)).foldl (fun n i => n + i.size) 0
  max (decimal total).length (if known.all (·.kind = .regular) then 1 else 7)

/-- Counts an open file. Answers also why it could not be read to its end. -/
def countFile (fd : Nat) : Job (Counts × Option Errno) := do
  let (s, fault) ← keepOn (m := Job) (fun (s, _) => do
    match ← (Task.read fd 16384 : Task _) with
    | .error e => return ((s, some e), false)
    | .ok bytes => return ((bytes.foldl Counting.step s, none), !bytes.isEmpty)) roundLimit
    (({} : Counting), (none : Option Errno))
  return (s.finish, fault)

def wc : Tool :=
  Job.toTool 1 fun words _ => do
    let (o, files) ← Job.readOptions countOptions words ({} : CountOptions) fun o key value => do
      match key with
      | "total" => return { o with total := ← Job.choose "--total" totalChoices value }
      | "" => return o
      | "files0-from" => return o
      | key => return { o with asked := key :: o.asked }
    let keys := if o.asked.isEmpty then ["l", "w", "c"] else o.asked
    let asked := counters.filter fun c => keys.contains c.1
    let paths := filesOrInput files
    let infos ← paths.mapM infoOf
    let width := if o.total = "only" || (paths.length = 1 && asked.length = 1) then 1
      else countWidth infos
    let write (c : Counts) (name : String) : Job Unit := do
      Job.print (countLine width (asked.map fun counter => counter.2 c) name)
      Job.flushLine
    let mut code := 0
    let mut all : Counts := {}
    for path in paths do
      let name := if files.isEmpty then "standard input" else path
      let opened ← if path = "-" then pure (.ok 0) else Job.openFile path .reading
      match opened with
      | .error e =>
        if path = "" then Job.complain "invalid zero-length file name"
        else Job.complainOf (Quote.subject name) e
        code := 1
      | .ok fd =>
        let (counts, fault) ← countFile fd
        if let some e := fault then
          Job.complainOf (Quote.subject name) e
          code := 1
        all := all.add counts
        if o.total != "only" then write counts (if files.isEmpty then "" else path)
        if path != "-" then (Task.close fd : Task _)
    match o.total with
    | "auto" => if 1 < paths.length then write all "total"
    | "always" => write all "total"
    | "only" => write all ""
    | _ => pure ()
    if paths.contains "-" then Job.closeInput "-"
    return code

end Tool

end ShellPipeline
