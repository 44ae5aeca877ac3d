import ShellPipeline.Edit.Cycle
import ShellPipeline.Tool.Option
import ShellPipeline.Tool.Part

/-!
# Editing files by a script

`sed` applies an editing script to the lines of files and writes them to standard output, or in the
place of the files.
-/

namespace ShellPipeline

/-- How `sed` was called, as far as its words were read. -/
structure EditOptions where
  style : EditStyle := {}
  draft : EditDraft := {}
  expressions : Nat := 0
  hasScript : Bool := false
  /-- Whether lines are put out only by commands. -/
  silent : Bool := false
  /-- Whether the lines of every file are counted apart. -/
  separate : Bool := false
  unbuffered : Bool := false
  /-- What is added to the names of files that are edited in place. -/
  suffix : Option String := none
  /-- The width of lines in a visible form. -/
  width : Nat := 70
  /-- The descriptors of the files that the script writes. -/
  outputs : List Nat := []

/-- A file that is edited in place. -/
structure EditedFile where
  /-- The descriptor of what takes its place. -/
  fd : Nat
  path : String
  target : String
  mode : Nat

/-- What an editor has opened. -/
structure EditFiles where
  fd : Nat := 0
  edited : Option EditedFile := none
  outputs : List Nat := []
  /-- The files of which lines are taken. -/
  sources : List (Option Nat) := []
  /-- Whether a file could not be read. -/
  hasFailed : Bool := false

namespace EditOptions

def known (environment : Environment) : KnownOptions where
  letters := KnownOptions.ofLetters "bnrsuzE"
    ++ [('e', .always), ('f', .always), ('l', .always), ('i', .perhaps)]
  names := [("binary", .never, "b"), ("regexp-extended", .never, "E"), ("debug", .never, "debug"),
    ("in-place", .perhaps, "i"), ("expression", .always, "e"), ("file", .always, "f"),
    ("line-length", .always, "l"), ("null-data", .never, "z"),
    ("zero-terminated", .never, "z"), ("quiet", .never, "n"), ("posix", .never, "posix"),
    ("silent", .never, "n"), ("sandbox", .never, "sandbox"), ("separate", .never, "s"),
    ("unbuffered", .never, "u"), ("follow-symlinks", .never, "follow-symlinks")]
  onlyFirst := (environment.lookup "POSIXLY_CORRECT").isSome

def leadingNumber (text : String) : Nat :=
  (takeNumber 10 text.length text.toList).1

def start (environment : Environment) : EditOptions :=
  { style := { basicOnly := (environment.lookup "POSIXLY_CORRECT").isSome }
    width := match environment.lookup "COLS" with
      | some columns => if 1 < leadingNumber columns then leadingNumber columns - 1 else 70
      | none => 70 }

end EditOptions

namespace Tool

/-- The code of an editor that cannot go on. -/
def editFailure : Nat := 4

def stopEditor {α : Type} (message : String) : Job α := do
  Job.report ((← get).name ++ ": " ++ message ++ "\n")
  Job.flush
  (Task.exit editFailure : Task α)

def refuseScript {α : Type} (message : String) : Job α := do
  Job.report ((← get).name ++ ": " ++ message ++ "\n")
  Job.flush
  (Task.exit 1 : Task α)

def refuseWords {α : Type} : Job α := do
  Job.report ("Usage: " ++ (← get).name
    ++ " [OPTION]... \x7bscript-only-if-no-other-script\x7d [input-file]...\n")
  (Task.exit 1 : Task α)

def openNeeded (path : String) (how : Access) : Job Nat := do
  match ← Job.openFile path how with
  | .ok fd => return fd
  | .error e => stopEditor ("couldn't open file " ++ path ++ ": " ++ e.wording)

def readScript (o : EditOptions) (source : EditSource) (text : String) : Job EditOptions := do
  let (result, draft) := (EditReader.part o.style source text.toList).run o.draft
  let mut outputs := o.outputs
  for path in draft.outputs.drop o.outputs.length do
    outputs := outputs ++ [← openNeeded path .writing]
  match result with
  | .ok () => return { o with draft, outputs, hasScript := true }
  | .error (.fault f) => refuseScript (draft.faultText f)
  | .error .loneClass =>
    stopEditor "character class syntax is [[:space:]], not [:space:]"

def readExpression (o : EditOptions) (text : String) : Job EditOptions := do
  let o := { o with expressions := o.expressions + 1 }
  readScript o (.expression o.expressions) text

def readScriptFile (o : EditOptions) (path : String) : Job EditOptions := do
  let fd ← if path = "-" then pure 0 else openNeeded path .reading
  let text ← match ← (Task.readAll fd Job.blockSize : Task _) with
    | .ok bytes => pure (wordOfBytes bytes)
    | .error _ => pure ""
  if path != "-" then (Task.close fd : Task _)
  readScript o (.file path) text

def useEditOption (o : EditOptions) (key value : String) : Job EditOptions := do
  match key with
  | "n" => return { o with silent := true }
  | "e" => readExpression o value
  | "f" => readScriptFile o value
  | "E" | "r" => return { o with style := { o.style with extended := true } }
  | "s" => return { o with separate := true }
  | "u" => return { o with unbuffered := true }
  | "z" => return { o with style := { o.style with ending := '\x00' } }
  | "i" => return { o with separate := true, suffix := some value }
  | "l" => return { o with width := EditOptions.leadingNumber value }
  | "posix" => return { o with style := { o.style with basicOnly := true } }
  | "sandbox" => return { o with style := { o.style with confined := true } }
  | _ => return o

/-- Reads the words of `sed`. Answers the options and the files. -/
def readEditWords (words : List String) (environment : Environment) :
    Job (EditOptions × List String) := do
  let mut o := EditOptions.start environment
  let mut files : List String := []
  for word in (EditOptions.known environment).read 0 words do
    match word with
    | .fault message =>
      Job.report ((← get).name ++ ": " ++ message ++ "\n")
      refuseWords
    | .operand w => files := w :: files
    | .option key value =>
      if key = "help" || key = "version" then Job.leave 0
      o ← useEditOption o key (value.getD "")
  match o.hasScript, files.reverse with
  | true, paths => return (o, paths)
  | false, [] => refuseWords
  | false, script :: paths => return (← readExpression o script, paths)

/-- The script of options, after all of it was read. -/
def finishScript (o : EditOptions) : Job EditScript := do
  let d := o.draft
  if let some message := d.openBlockText? then refuseScript message
  if let some label := d.missingLabel? then
    stopEditor ("can't find label for jump to \x60" ++ label ++ "'")
  return {
    commands := d.finished
    silent := o.silent || d.silent
    ending := o.style.ending
    width := o.width
    separate := o.separate
    basicOnly := o.style.basicOnly
    inPlace := o.suffix.isSome
    unbuffered := o.unbuffered
    inputs := d.inputs }

/-- The directory of a path, and the name in it. -/
def splitPath (path : String) : String × String :=
  let name := (path.toList.reverse.takeWhile (· ≠ '/')).reverse
  let before := path.toList.take (path.length - name.length - 1)
  (if name.length = path.length then "." else String.ofList before, String.ofList name)

/-- The path under which a file is kept that is edited in place. -/
def keptPath (suffix target : String) : String :=
  let (dir, name) := splitPath target
  let new := if suffix.toList.contains '*' then name.intercalate (suffix.splitOn "*")
    else name ++ suffix
  if new.toList.contains '/' then new
  else if dir = "." && !target.startsWith "./" then new
  else dir ++ "/" ++ new

def cannotWrite {α : Type} (count : Nat) (name : String) (e : Errno) : Job α :=
  stopEditor ("couldn't write " ++ decimal count ++ (if count = 1 then " item" else " items")
    ++ " to " ++ name ++ ": " ++ e.wording)

/-- The length of the text with which more characters are put out than can be held back. -/
def overflowing : Nat → List (List Char) → Nat
  | _, [] => 0
  | size, cs :: rest =>
    if Job.blockSize < size + cs.length then cs.length else overflowing (size + cs.length) rest

def putOut (files : EditFiles) (s : EditState) : Job EditState := do
  let texts := s.out.reverse
  let bytes := bytesOfChars texts.flatten
  match files.edited with
  | some edited =>
    match ← (Task.writeAll edited.fd bytes : Task _) with
    | .ok () => pure ()
    | .error e => cannotWrite bytes.length edited.path e
  | none =>
    let before := (← get).held.size
    Job.put bytes
    if let some e := (← get).fault then
      cannotWrite (overflowing before texts) "stdout" e
  return { s with out := [], outSize := 0 }

def closeEdited (suffix : Option String) (files : EditFiles) : Job EditFiles := do
  if let some edited := files.edited then
    (Task.close edited.fd : Task _)
    if let some suffix := suffix then
      if suffix != "" then
        let kept := keptPath suffix edited.target
        if let .error e ← (Task.call (.rename edited.target kept) : Task _) then
          stopEditor ("cannot rename " ++ edited.target ++ ": " ++ e.wording)
    if let .error e ← (Task.call (.rename edited.path edited.target) : Task _) then
      stopEditor ("cannot rename " ++ edited.path ++ ": " ++ e.wording)
  return { files with edited := none }

def beginEdited (path : String) (fd : Nat) : Job EditedFile := do
  let info ← match ← (Task.call (.describeOpen fd) : Task _) with
    | .ok info => pure info
    | .error e => stopEditor ("couldn't edit " ++ path ++ ": " ++ e.wording)
  if info.kind != .regular then
    stopEditor ("couldn't edit " ++ path ++ ": not a regular file")
  let (number, _) ← (Task.call .identity : Task _)
  let new := (splitPath path).1 ++ "/sed" ++ decimal number
  match ← Job.openFile new { writes := true, creates := some 0o600, exclusive := true } with
  | .ok out =>
    let _ ← (Task.call (.changeMode new info.mode) : Task _)
    return { fd := out, path := new, target := path, mode := info.mode }
  | .error e => stopEditor ("couldn't open temporary file " ++ new ++ ": " ++ e.wording)

def openNext (p : EditScript) (s : EditState) (files : EditFiles) :
    Job (EditState × EditFiles) := do
  match s.files with
  | [] => return (s, files)
  | path :: rest =>
    let s := { s with files := rest, name := path, ahead := [], begun := [], isAtEnd := false }
    if path = "-" && !p.inPlace then return ({ s with isOpen := true }, { files with fd := 0 })
    match ← Job.openFile path .reading with
    | .error e =>
      Job.report ((← get).name ++ ": can't read " ++ path ++ ": " ++ e.wording ++ "\n")
      return (s, { files with hasFailed := true })
    | .ok fd =>
      let edited ← if p.inPlace then some <$> beginEdited path fd else pure none
      return ({ s with isOpen := true }, { files with fd, edited })

def openName (s : EditState) (fd : Nat) : String :=
  if fd = 0 then "stdin" else s.name

/-- The number of bytes that an editor reads at once. -/
def editReadSize (p : EditScript) : Nat :=
  if p.unbuffered then 1 else Job.blockSize

def fillAhead (p : EditScript) (s : EditState) (files : EditFiles) : Job EditState := do
  match ← (Task.read files.fd (editReadSize p) : Task _) with
  | .error e => stopEditor ("read error on " ++ openName s files.fd ++ ": " ++ e.wording)
  | .ok bytes =>
    return { s with ahead := s.ahead ++ charsOfBytes bytes, isAtEnd := bytes.isEmpty }

/-- Reads more of a file of which lines are taken. -/
def fillSource (p : EditScript) (s : EditState) (files : EditFiles) (number : Nat) :
    Job EditState := do
  let source := s.sources.getD number {}
  let change (source : LineSource) : EditState :=
    { s with sources := s.sources.setIfInBounds number source }
  match files.sources.getD number none with
  | none => return change { source with isAtEnd := true }
  | some fd =>
    if source.isNew then
      let _ ← (Task.call (.seek fd 0 .start) : Task _)
    match ← (Task.read fd Job.blockSize : Task _) with
    | .error e =>
      stopEditor ("read error on " ++ p.inputs.getD number "" ++ ": " ++ e.wording)
    | .ok bytes =>
      return change
        { ahead := source.ahead ++ charsOfBytes bytes, isNew := false, isAtEnd := bytes.isEmpty }

/-- Puts out a file. Standard input is put out from where the editor has read it. -/
def copyWhole (s : EditState) (files : EditFiles) (path : String) : Job EditState := do
  let isShared := path = "/dev/stdin" && s.isOpen && files.fd = 0
  let ahead := if isShared then s.ahead else []
  let opened ← if path = "/dev/stdin" then pure (.ok 0) else Job.openFile path .reading
  match opened with
  | .error _ => return s
  | .ok fd =>
    match ← (Task.readAll fd Job.blockSize : Task _) with
    | .error e => stopEditor ("read error on " ++ path ++ ": " ++ e.wording)
    | .ok bytes =>
      if fd != 0 then (Task.close fd : Task _)
      let s := s.putRaw (ahead ++ charsOfBytes bytes)
      return if isShared then { s with ahead := [], isAtEnd := true } else s

/-- Runs a command. Answers what it writes. -/
def runLine (environment : Environment) (command : List Char) : Job (List Char) := do
  match ← (Task.call .makePipe : Task _) with
  | .error _ => stopEditor "error in subprocess"
  | .ok (input, output) =>
    let command := String.ofList (command.takeWhile (· ≠ '\x00'))
    let child : Task Nat := do
      let _ ← (Task.call (.close input) : Task _)
      if output != standardOutput then
        let _ ← (Task.call (.duplicateTo output standardOutput) : Task _)
        let _ ← (Task.call (.close output) : Task _)
      let _ ← Task.execute "/bin/sh" ["sh", "-c", "--", command] environment
      return 127
    match ← (Task.fork child : Task _) with
    | .error _ => stopEditor "error in subprocess"
    | .ok number =>
      (Task.close output : Task _)
      let taken ← (Task.readAll input Job.blockSize : Task _)
      (Task.close input : Task _)
      let _ ← (Task.call (.awaitChild (some number) true) : Task _)
      return charsOfBytes (taken.toOption.getD [])

def writeElsewhere (files : EditFiles) (names : List String)
    (target : EditOutput) (cs : List Char) : Job Unit := do
  let (fd, name) := match target with
    | .output => (standardOutput, "stdout")
    | .error => (standardError, "stderr")
    | .file n => (files.outputs.getD n standardError, names.getD n "")
  if let .error e ← (Task.writeAll fd (bytesOfChars cs) : Task _) then
    stopEditor ("couldn't flush " ++ name ++ ": " ++ e.wording)

/-- Ends an editor with a code. What it has read of standard input and not used is left to others
if they can read it. -/
def leaveEditor (o : EditOptions) (s : EditState) (files : EditFiles) (code : Nat) : Job Nat := do
  let files ← closeEdited o.suffix files
  if s.isOpen && files.fd = 0 then giveBack 0 s.ahead.length
  Job.flush
  if let some e := (← get).fault then
    if e != .badDescriptor then stopEditor ("couldn't flush stdout: " ++ e.wording)
  if let .error e ← (Task.call (.close standardOutput) : Task _) then
    stopEditor ("couldn't close stdout: " ++ e.wording)
  return if files.hasFailed then 2 else code

/-- Fulfils a request of an editor. Answers the code if it has ended. -/
def fulfil (o : EditOptions) (p : EditScript) (environment : Environment) (s : EditState)
    (files : EditFiles) (r : EditRequest) : Job (EditState × EditFiles × Option Nat) := do
  match r with
  | .fill => return (← fillAhead p s files, files, none)
  | .openNext =>
    let (s, files) ← openNext p s files
    return (s, files, none)
  | .closeFile =>
    if files.fd != 0 then (Task.close files.fd : Task _)
    return (s, ← closeEdited o.suffix { files with fd := 0 }, none)
  | .flush =>
    if p.unbuffered then Job.flush
    return (s, files, none)
  | .write target cs =>
    writeElsewhere files o.draft.outputs target cs
    return (s, files, none)
  | .copy path => return (← copyWhole s files path, files, none)
  | .fillFile number => return (← fillSource p s files number, files, none)
  | .run command becomesLine =>
    let cs ← runLine environment command
    if becomesLine then
      let pattern := if cs.getLast? = some p.ending then cs.dropLast else cs
      return ({ s with pattern }, files, none)
    return (s.putRaw cs, files, none)
  | .leave code => return (s, files, some (← leaveEditor o s files code))
  | .fail f =>
    if files.edited.isNone then Job.flush
    refuseScript (o.draft.lateFaultText f)

def sed : Tool :=
  Job.toTool editFailure fun words environment => do
    let (o, paths) ← readEditWords words environment
    let p ← finishScript o
    if p.inPlace && paths.isEmpty then stopEditor "no input files"
    let mut sources : List (Option Nat) := []
    for path in p.inputs do
      if path = "/dev/stdin" then sources := sources ++ [some 0]
      else sources := sources ++ [(← Job.openFile path .reading).toOption]
    let files : EditFiles := { outputs := o.outputs, sources }
    let (_, _, code) ← keepOn (m := Job) (fun (s, files, _) => do
      let (s, r) := EditState.work p roundLimit s
      let s ← putOut files s
      let (s, files, code) ← fulfil o p environment s files r
      return ((s, files, code), code.isNone)) roundLimit
      (EditState.start p (filesOrInput paths), files, (none : Option Nat))
    return code.getD 0

end Tool

end ShellPipeline
