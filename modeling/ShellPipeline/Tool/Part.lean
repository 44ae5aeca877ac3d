import ShellPipeline.Text.Lines
import ShellPipeline.Tool.Option
import ShellPipeline.Tool.Size

/-!
# Parts of files

`head` copies the beginning of each file and `tail` its end, counted in lines or in bytes. What
`head` has read and not copied is left to others if it can be read again.
-/

namespace ShellPipeline

/-- What `head` and `tail` are asked for. -/
structure PartOptions where
  /-- Whether the part is counted in lines and not in bytes. -/
  inLines : Bool := true
  count : Nat := 10
  /-- Whether they are counted from the other end than usual. -/
  reversed : Bool := false
  /-- Whether the names of the files are written. -/
  headers : Option Bool := none
  ending : UInt8 := lineFeed

namespace PartOptions

def known (letters : List (Char × Valued)) (names : List (String × Valued × String)) :
    KnownOptions where
  letters := [('c', .always), ('n', .always), ('q', .never), ('v', .never), ('z', .never)]
    ++ letters ++ KnownOptions.ofLetters "0123456789"
  names := [("bytes", .always, "c"), ("lines", .always, "n")] ++ names
    ++ [("quiet", .never, "q"), ("silent", .never, "q"), ("verbose", .never, "v"),
      ("zero-terminated", .never, "z")]

def countName (inLines : Bool) : String :=
  if inLines then "number of lines" else "number of bytes"

def use (o : PartOptions) (key : String) : PartOptions :=
  match key with
  | "q" => { o with headers := some false }
  | "v" => { o with headers := some true }
  | "z" => { o with ending := 0 }
  | _ => o

def setCount (o : PartOptions) (inLines reversed : Bool) (value : String) : Job PartOptions := do
  let count ← Job.readSize Size.usualUnits (countName inLines) value
  return { o with inLines, count, reversed }

end PartOptions

namespace Tool

def filesOrInput (words : List String) : List String :=
  if words.isEmpty then ["-"] else words

/-- The number of bytes that are read at once. -/
def readSize : Nat := 8192

/-- Puts out what is copied and fails at once if it cannot be written. -/
def copyOut (bytes : Bytes) : Job Unit := do
  Job.put bytes
  let d ← get
  if let some e := d.fault then
    set { d with held := {}, fault := none }
    Job.fail ("error writing 'standard output': " ++ e.wording)

/-- Whether somebody else can read on after a position in the file of a descriptor. -/
def giveBack (fd count : Nat) : Job Unit := do
  if count != 0 then
    let _ ← (Task.call (.seek fd (-(count : Int)) .current) : Task _)

/-- The bytes up to the end of the line with a number, and the number of lines that are left. -/
def splitLines (ending : UInt8) : Nat → Bytes → Bytes → Bytes × Bytes × Nat
  | 0, done, rest => (done.reverse, rest, 0)
  | lines, done, [] => (done.reverse, [], lines)
  | lines + 1, done, b :: rest =>
    splitLines ending (if b = ending then lines else lines + 1) (b :: done) rest

/-- The number of lines of which the last one may have no end. -/
def countLines (ending : UInt8) (bytes : Bytes) : Nat :=
  bytes.count ending + (if bytes.getLast?.all (· = ending) then 0 else 1)

def beginning (o : PartOptions) (count : Nat) (bytes : Bytes) : Bytes × Bytes × Nat :=
  if o.inLines then splitLines o.ending count [] bytes
  else (bytes.take count, bytes.drop count, count - bytes.length)

/-- What a tool does with an open file. Answers whether it could be read. -/
abbrev PartJob := (name : String) → (fd : Nat) → Job Bool

def cannotRead (name : String) (e : Errno) : Job Bool := do
  Job.complainOf ("error reading " ++ Quote.name name) e
  return false

/-- Does something with an open file after a look at what it is. -/
def afterLook (work : PartJob) : PartJob := fun name fd => do
  match ← (Task.call (.describeOpen fd) : Task _) with
  | .ok _ => work name fd
  | .error e =>
    Job.complainOf ("cannot fstat " ++ Quote.name name) e
    return false

def copyBeginning (o : PartOptions) : PartJob := fun name fd => do
  let (_, fine) ← keepOn (m := Job) (fun (count, _) => do
    if count = 0 then return ((0, true), false)
    let size := if o.inLines then readSize else min readSize count
    match ← (Task.read fd size : Task _) with
    | .error e => return ((0, ← cannotRead name e), false)
    | .ok bytes =>
      let (part, rest, left) := beginning o count bytes
      giveBack fd rest.length
      copyOut part
      return ((left, true), !bytes.isEmpty)) roundLimit (o.count, true)
  return fine

def copyButEnd (o : PartOptions) : PartJob := fun name fd => do
  match ← (Task.readAll fd readSize : Task _) with
  | .error e => cannotRead name e
  | .ok bytes =>
    let size := if o.inLines then countLines o.ending bytes else bytes.length
    let (part, rest, _) := beginning o (size - o.count) bytes
    giveBack fd rest.length
    copyOut part
    return true

def copyRest : PartJob := fun name fd => do
  keepOn (m := Job) (fun _ => do
    match ← (Task.read fd readSize : Task _) with
    | .error e => return (← cannotRead name e, false)
    | .ok bytes =>
      copyOut bytes
      return (true, !bytes.isEmpty)) roundLimit true

def copyAfterBeginning (o : PartOptions) : PartJob := fun name fd => do
  let (_, fine) ← keepOn (m := Job) (fun (count, _) => do
    if count = 0 then return ((0, ← copyRest name fd), false)
    match ← (Task.read fd readSize : Task _) with
    | .error e => return ((0, ← cannotRead name e), false)
    | .ok bytes =>
      let (_, rest, left) := beginning o count bytes
      copyOut rest
      return ((left, true), !bytes.isEmpty)) roundLimit (o.count - 1, true)
  return fine

def copyEnd (o : PartOptions) : PartJob := fun name fd => do
  match ← (Task.readAll fd readSize : Task _) with
  | .error e => cannotRead name e
  | .ok bytes =>
    let size := if o.inLines then countLines o.ending bytes else bytes.length
    copyOut (beginning o (size - o.count) bytes).2.1
    return true

def shownName (path : String) : String :=
  if path = "-" then "standard input" else path

/-- Does something with each of some files, after their names if that is asked for. -/
def eachPart (o : PartOptions) (work : PartJob) (words : List String) : Job Nat := do
  let files := filesOrInput words
  let headers := o.headers.getD (1 < files.length)
  let mut code := 0
  let mut separator := ""
  for path in files do
    let opened ← if path = "-" then pure (.ok 0) else Job.openFile path .reading
    match opened with
    | .error e =>
      Job.complainOf ("cannot open " ++ Quote.name path ++ " for reading") e
      code := 1
    | .ok fd =>
      let name := shownName path
      if headers then
        Job.print (separator ++ "==> " ++ name ++ " <==\n")
        separator := "\n"
      unless ← work name fd do code := 1
      if path != "-" then (Task.close fd : Task _)
  if files.contains "-" then Job.closeInput "-"
  return code

/-- The number that a word of `head` gives in the old way, and the letters after it. -/
def oldCount? (word : String) : Option (String × List Char) :=
  match word.toList with
  | '-' :: c :: rest =>
    if c.isDigit then
      let digits := (c :: rest).takeWhile Char.isDigit
      some (String.ofList digits, (c :: rest).drop digits.length)
    else none
  | _ => none

/-- Uses the letters after a number that was given to `head` in the old way. Answers also the unit
of the number. -/
def useOldLetters (o : PartOptions) : String → List Char → Job (PartOptions × String)
  | unit, [] => pure (o, unit)
  | unit, c :: rest =>
    if c = 'c' then useOldLetters { o with inLines := false } "" rest
    else if c = 'b' || c = 'k' || c = 'm' then
      useOldLetters { o with inLines := false } c.toString rest
    else if c = 'l' then useOldLetters { o with inLines := true } unit rest
    else if c = 'q' || c = 'v' || c = 'z' then useOldLetters (o.use c.toString) unit rest
    else Job.misuse ("invalid trailing option -- " ++ c.toString)

/-- Sets the number that the first word of `head` gives in the old way, if it does. -/
def headOldOption (words : List String) : Job (PartOptions × List String) := do
  match words with
  | [] => return ({}, [])
  | word :: rest =>
    match oldCount? word with
    | none => return ({}, words)
    | some (digits, letters) =>
      let (o, unit) ← useOldLetters {} "" letters
      return (← o.setCount o.inLines false (digits ++ unit), rest)

def withoutSign (sign : Char) (value : String) : Bool × String :=
  match value.toList with
  | c :: rest => if c = sign then (true, String.ofList rest) else (false, value)
  | [] => (false, value)

def head : Tool :=
  Job.toTool 1 fun words _ => do
    let (o, words) ← headOldOption words
    let known := PartOptions.known [] [("-presume-input-pipe", .never, "")]
    let (o, files) ← Job.readOptions known words o fun o key value => do
      match key with
      | "c" | "n" =>
        let (reversed, value) := withoutSign '-' value
        o.setCount (key == "n") reversed value
      | "0" | "1" | "2" | "3" | "4" | "5" | "6" | "7" | "8" | "9" =>
        Job.misuse ("invalid trailing option -- " ++ key)
      | _ => return o.use key
    eachPart o (if o.reversed then afterLook (copyButEnd o) else copyBeginning o) files

/-- Whether words can be an option that was given to `tail` in the old way, and at most one file.
-/
def isOldForm : List String → Bool
  | [_] => true
  | [_, file] => file = "-" || !file.startsWith "-" || file = "--"
  | [_, hyphens, _] => hyphens = "--"
  | _ => false

/-- Reads an option that was given to `tail` in the old way. -/
def readOldTail? (word : String) : Option (Bool × String × List Char) :=
  let split (cs : List Char) : String × List Char :=
    let digits := cs.takeWhile Char.isDigit
    (String.ofList digits, cs.drop digits.length)
  let letters := fun cs : List Char =>
    let cs := match cs with
      | 'b' :: rest => rest
      | 'c' :: rest => rest
      | 'l' :: rest => rest
      | _ => cs
    cs = [] || cs = ['f']
  match word.toList with
  | '+' :: cs =>
    let (digits, rest) := split cs
    if letters rest then some (true, digits, rest) else none
  | '-' :: cs =>
    let (digits, rest) := split cs
    if cs = [] || cs = ['c'] || !letters rest then none else some (false, digits, rest)
  | _ => none

/-- Sets the number that the first word of `tail` gives in the old way, if it does. -/
def tailOldOption (words : List String) : Job (PartOptions × List String) := do
  match words, (words.head?.bind readOldTail?) with
  | word :: rest, some (reversed, digits, letters) =>
    if !isOldForm words then return ({}, words)
    let factor := if letters.head? = some 'b' then 512 else 1
    let inLines := letters.head? != some 'b' && letters.head? != some 'c'
    let count := if digits = "" then 10 else (readDecimal? digits.toList).getD 0
    if Size.maximum < count * factor then
      Job.fail ("invalid number: " ++ Quote.value word ++ ": Numerical result out of range")
    return ({ inLines, count := count * factor, reversed }, rest)
  | _, _ => return ({}, words)

def tailOptions : KnownOptions :=
  PartOptions.known [('f', .never), ('F', .never), ('s', .always)]
    [("follow", .perhaps, ""), ("max-unchanged-stats", .always, ""),
      ("-disable-inotify", .never, ""), ("pid", .always, ""), ("-presume-input-pipe", .never, ""),
      ("retry", .never, ""), ("sleep-interval", .always, "")]

def tail : Tool :=
  Job.toTool 1 fun words _ => do
    let (o, words) ← tailOldOption words
    let (o, files) ← Job.readOptions tailOptions words o fun o key value => do
      match key with
      | "c" | "n" =>
        let (reversed, value) := withoutSign '+' value
        o.setCount (key == "n") reversed (withoutSign '-' value).2
      | "0" | "1" | "2" | "3" | "4" | "5" | "6" | "7" | "8" | "9" =>
        Job.fail ("option used in invalid context -- " ++ key)
      | _ => return o.use key
    if o.count = 0 && !o.reversed then return 0
    eachPart o (afterLook (if o.reversed then copyAfterBeginning o else copyEnd o)) files

end Tool

end ShellPipeline
