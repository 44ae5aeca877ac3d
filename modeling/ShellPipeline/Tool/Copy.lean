import ShellPipeline.Text.Lines
import ShellPipeline.Tool.Option
import ShellPipeline.Tool.Part
import ShellPipeline.Tool.Quote

/-!
# Copying files

`cat` copies files to its output, perhaps with numbers before the lines and with marks for what
cannot be seen. `tee` copies its input to its output and into files.
-/

namespace ShellPipeline

/-- How `cat` shows what it copies. -/
structure CatOptions where
  /-- Whether lines that are not empty are numbered. -/
  numbers : Bool := false
  numbersEmpty : Bool := false
  /-- Whether only one of several empty lines is copied. -/
  squeezes : Bool := false
  /-- Whether the ends of lines are marked. -/
  marksEnds : Bool := false
  marksTabs : Bool := false
  /-- Whether other characters that cannot be seen are marked. -/
  marksOthers : Bool := false

/-- What `cat` remembers of what it has copied. -/
structure CatState where
  /-- The number of the last line that was numbered. -/
  number : Nat := 0
  /-- The number of empty lines just before, if a line begins here. -/
  emptyLines : Option Nat := some 0
  /-- Whether a carriage return has not been copied. -/
  owesReturn : Bool := false
  done : Bytes := []

namespace CatOptions

def isPlain (o : CatOptions) : Bool :=
  !(o.numbers || o.squeezes || o.marksEnds || o.marksTabs || o.marksOthers)

def known : KnownOptions where
  letters := KnownOptions.ofLetters "benstuvAET"
  names := [("number-nonblank", .never, "b"), ("number", .never, "n"),
    ("squeeze-blank", .never, "s"), ("show-nonprinting", .never, "v"), ("show-ends", .never, "E"),
    ("show-tabs", .never, "T"), ("show-all", .never, "A")]

/-- Uses an option. Numbering only lines that are not empty prevails. -/
def use (o : CatOptions) (key : String) : CatOptions :=
  match key with
  | "b" => { o with numbers := true, numbersEmpty := false }
  | "n" => { o with numbers := true, numbersEmpty := !o.numbers || o.numbersEmpty }
  | "s" => { o with squeezes := true }
  | "e" => { o with marksEnds := true, marksOthers := true }
  | "t" => { o with marksTabs := true, marksOthers := true }
  | "v" => { o with marksOthers := true }
  | "A" => { o with marksEnds := true, marksTabs := true, marksOthers := true }
  | "E" => { o with marksEnds := true }
  | "T" => { o with marksTabs := true }
  | _ => o

/-- The form of a byte below 128 with its mark. -/
def marked (b : UInt8) : Bytes :=
  if b < 32 then [94, b + 64] else if b = 127 then [94, 63] else [b]

def showByte (o : CatOptions) (b : UInt8) : Bytes :=
  if b = 9 then (if o.marksTabs then [94, 73] else [9])
  else if !o.marksOthers then [b]
  else if b < 128 then marked b
  else [77, 45] ++ marked (b - 128)

def numberText (n : Nat) : Bytes :=
  let digits := decimal n
  bytesOfWord (String.ofList (List.replicate (6 - digits.length) ' ') ++ digits ++ "\t")

end CatOptions

namespace CatState

def add (s : CatState) (bytes : Bytes) : CatState :=
  { s with done := bytes.reverse ++ s.done }

def addNumber (s : CatState) : CatState :=
  { s with number := s.number + 1 }.add (CatOptions.numberText (s.number + 1))

def payReturn (s : CatState) (marked : Bool) : CatState :=
  if s.owesReturn then { s with owesReturn := false }.add (if marked then [94, 77] else [13]) else s

def endLine (o : CatOptions) (s : CatState) : CatState :=
  let s := s.payReturn o.marksEnds
  match s.emptyLines with
  | none => { s with emptyLines := some 0 }.add (if o.marksEnds then [36, 10] else [10])
  | some n =>
    if o.squeezes && 1 ≤ n then s
    else
      let s := if o.numbers && o.numbersEmpty then s.addNumber else s
      { s with emptyLines := some (n + 1) }.add (if o.marksEnds then [36, 10] else [10])

def copy (o : CatOptions) (s : CatState) (b : UInt8) : CatState :=
  if b = lineFeed then s.endLine o
  else
    let s := s.payReturn false
    let s := if s.emptyLines.isSome && o.numbers then s.addNumber else s
    let s := { s with emptyLines := none }
    if b = 13 && o.marksEnds && !o.marksOthers then { s with owesReturn := true }
    else s.add (o.showByte b)

end CatState

namespace Tool

/-- The size of the pieces in which files are copied. -/
def copySize : Nat := 131072

/-- Writes bytes at once, and fails if that is not possible. -/
def writeOut (bytes : Bytes) : Job Unit := do
  match ← (Task.writeAll standardOutput bytes : Task _) with
  | .ok () => return
  | .error e => Job.fail ("write error: " ++ e.wording)

/-- Whether copying an open file would copy what was just written to standard output. -/
def wouldRepeat (out : FileInfo) (fd : Nat) : Job Bool := do
  match ← (Task.call (.describeOpen fd) : Task _) with
  | .error _ => return false
  | .ok info =>
    if info.kind != .regular || info.number != out.number then return false
    let position ← (Task.call (.seek fd 0 .current) : Task _)
    let written ← (Task.call (.seek standardOutput 0
      (if out.appends then .ending else .current)) : Task _)
    match position, written with
    | .ok i, .ok o => return i < o
    | _, _ => return false

/-- Copies an open file. Answers whether it could be read. -/
def copyFile (o : CatOptions) (name : String) (fd : Nat) (s : CatState) :
    Job (CatState × Bool) := do
  keepOn (m := Job) (fun (s, _) => do
    match ← (Task.read fd copySize : Task _) with
    | .error e =>
      Job.complainOf name e
      return ((s, false), false)
    | .ok bytes =>
      if bytes.isEmpty then return ((s, true), false)
      else if o.isPlain then
        writeOut bytes
        return ((s, true), true)
      else
        let s := bytes.foldl (CatState.copy o) s
        writeOut s.done.reverse
        return (({ s with done := [] }, true), true)) roundLimit (s, true)

def cat : Tool :=
  Job.toTool 1 fun words _ => do
    let (o, files) ← Job.readOptions CatOptions.known words ({} : CatOptions) fun o key _ =>
      pure (o.use key)
    let out ← (Task.call (.describeOpen standardOutput) : Task _)
    match out with
    | .error e => Job.fail ("standard output: " ++ e.wording)
    | .ok out =>
      let mut code := 0
      let mut s : CatState := {}
      for path in filesOrInput files do
        let opened ← if path = "-" then pure (.ok 0) else Job.openFile path .reading
        match opened with
        | .error e =>
          Job.complainOf (Quote.subject path) e
          code := 1
        | .ok fd =>
          if ← wouldRepeat out fd then
            Job.complain (Quote.subject path ++ ": input file is output file")
            code := 1
          else
            let (s', fine) ← copyFile o (Quote.subject path) fd s
            s := s'
            unless fine do code := 1
          if path != "-" then (Task.close fd : Task _)
      writeOut (s.payReturn false).done
      if (filesOrInput files).contains "-" then Job.closeInput "closing standard input"
      return code

/-- What `tee` does about outputs that fail. -/
structure TeeOptions where
  /-- Whether files are written at their ends. -/
  appends : Bool := false
  ignoresInterrupts : Bool := false
  /-- What is done when an output fails, if something other than usual. -/
  mode : Option String := none

def teeOptions : KnownOptions where
  letters := [('a', .never), ('i', .never), ('p', .never)]
  names := [("append", .never, "a"), ("ignore-interrupts", .never, "i"),
    ("output-error", .perhaps, "p")]

def teeModes : List (String × String) :=
  ["warn", "warn-nopipe", "exit", "exit-nopipe"].map fun m => (m, m)

def useTeeOption (o : TeeOptions) (key value : String) : Job TeeOptions := do
  match key with
  | "a" => return { o with appends := true }
  | "i" => return { o with ignoresInterrupts := true }
  | _ =>
    if value = "" then return { o with mode := some "warn-nopipe" }
    return { o with mode := some (← Job.choose "--output-error" teeModes value) }

/-- Says that an output failed. Answers whether that counts as a failure. -/
def outputFailed (o : TeeOptions) (name : String) (e : Errno) : Job Bool := do
  let passes := e = .brokenPipe && (o.mode = some "warn-nopipe" || o.mode = some "exit-nopipe")
  if passes then return false
  Job.complainOf name e
  if o.mode = some "exit" || o.mode = some "exit-nopipe" then Job.leave 1
  return true

/-- Writes bytes to outputs. Answers those that did not fail, and whether others did. -/
def writeEach (o : TeeOptions) (bytes : Bytes) :
    List (Nat × String) → Job (List (Nat × String) × Bool)
  | [] => pure ([], false)
  | (fd, name) :: rest => do
    match ← (Task.writeAll fd bytes : Task _) with
    | .ok () =>
      let (kept, failed) ← writeEach o bytes rest
      return ((fd, name) :: kept, failed)
    | .error e =>
      let counts ← outputFailed o name e
      let (kept, failed) ← writeEach o bytes rest
      return (kept, counts || failed)

def tee : Tool :=
  Job.toTool 1 fun words _ => do
    let (o, files) ← Job.readOptions teeOptions words ({} : TeeOptions) useTeeOption
    if o.ignoresInterrupts then
      let _ ← (Task.call (.handle Signal.interrupt .ignored) : Task _)
    if o.mode.isSome then
      let _ ← (Task.call (.handle Signal.brokenPipe .ignored) : Task _)
    let mut code := 0
    let mut outputs := [(standardOutput, Quote.subject "standard output")]
    for path in files do
      match ← Job.openFile path (if o.appends then .appending else .writing) with
      | .ok fd => outputs := outputs ++ [(fd, Quote.subject path)]
      | .error e =>
        if ← outputFailed o (Quote.subject path) e then code := 1
    let (kept, failed) ← keepOn (m := Job) (fun (outputs, failed) => do
      if outputs.isEmpty then return ((outputs, failed), false)
      match ← (Task.read 0 readSize : Task _) with
      | .error e =>
        Job.complainOf "read error" e
        return ((outputs, true), false)
      | .ok bytes =>
        if bytes.isEmpty then return ((outputs, failed), false)
        let (outputs, more) ← writeEach o bytes outputs
        return ((outputs, failed || more), true)) roundLimit (outputs, false)
    for (fd, _) in kept do
      if fd != standardOutput then (Task.close fd : Task _)
    Job.closeInput "standard input"
    return if failed then 1 else code

end Tool

end ShellPipeline
