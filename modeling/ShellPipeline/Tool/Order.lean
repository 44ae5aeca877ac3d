import ShellPipeline.Text.Lines
import ShellPipeline.Tool.Collation
import ShellPipeline.Tool.Option
import ShellPipeline.Tool.Part
import ShellPipeline.Tool.Quote

/-!
# Putting lines in order

`sort` puts lines in order by keys, which are parts of the lines, and after that by the lines as
they are. It may drop lines with the same keys, merge files that are in order, and check whether a
file is in order.
-/

namespace ShellPipeline

/-- How texts are compared. -/
structure SortStyle where
  /-- Whether only letters, digits and blanks count. -/
  dictionary : Bool := false
  /-- Whether only what can be seen counts. -/
  visible : Bool := false
  /-- Whether small letters count as capital ones. -/
  folds : Bool := false
  /-- The letters of the orders other than the usual one. -/
  kinds : List Char := []
  reversed : Bool := false
  /-- Whether blanks at the beginning of the first field are passed over. -/
  skipsStart : Bool := false
  /-- Whether blanks at the beginning of the last field are passed over. -/
  skipsEnd : Bool := false
deriving DecidableEq, Repr

/-- A part of lines by which they are compared. -/
structure SortKey where
  /-- The number of fields before it, unless it begins with the line. -/
  fields : Option Nat := none
  /-- The number of characters before it in its field. -/
  skipped : Nat := 0
  /-- The number of fields before its last one, unless it ends with the line. -/
  lastFields : Option Nat := none
  /-- The number of characters of its last field, or zero for all of them. -/
  lastChars : Nat := 0
  style : SortStyle := {}
deriving Repr

/-- What `sort` is asked for. -/
structure SortOptions where
  /-- How lines are compared if a key does not say how. -/
  style : SortStyle := {}
  keys : List SortKey := []
  /-- The character between two fields, if it is not the blanks. -/
  separator : Option Char := none
  output : Option String := none
  /-- The letter of the check that is made instead. -/
  check : Option Char := none
  /-- Whether files that are in order are merged. -/
  merges : Bool := false
  /-- Whether lines with equal keys stay in their order. -/
  stable : Bool := false
  /-- Whether lines with equal keys are dropped but for the first one. -/
  unique : Bool := false
  ending : UInt8 := lineFeed

namespace SortStyle

def isUsual (s : SortStyle) : Bool :=
  !(s.dictionary || s.visible || s.folds || !s.kinds.isEmpty || s.skipsStart || s.skipsEnd)

/-- Uses the letter of an order, for the beginning of a key, its end or both. -/
def use? (start ending : Bool) (s : SortStyle) (c : Char) : Option SortStyle :=
  match c with
  | 'b' => some { s with skipsStart := s.skipsStart || start, skipsEnd := s.skipsEnd || ending }
  | 'd' => some { s with dictionary := true, visible := false }
  | 'f' => some { s with folds := true }
  | 'i' => some { s with visible := !s.dictionary }
  | 'r' => some { s with reversed := true }
  | _ =>
    if "ghMnRV".toList.contains c then
      some { s with kinds := if s.kinds.contains c then s.kinds else c :: s.kinds }
    else none

/-- The letters of a style without direction and blanks, in their order. -/
def letters (s : SortStyle) : String :=
  let on (b : Bool) (c : Char) : List Char := if b then [c] else []
  String.ofList (on s.dictionary 'd' ++ on s.folds 'f' ++ on (s.kinds.contains 'g') 'g'
    ++ on (s.kinds.contains 'h') 'h' ++ on s.visible 'i' ++ on (s.kinds.contains 'M') 'M'
    ++ on (s.kinds.contains 'n') 'n' ++ on (s.kinds.contains 'R') 'R'
    ++ on (s.kinds.contains 'V') 'V')

def conflicts (s : SortStyle) : Bool :=
  let numbers := s.kinds.filter fun c => c != 'V' && c != 'R'
  let others := s.dictionary || s.visible || s.kinds.contains 'V' || s.kinds.contains 'R'
  1 < numbers.length + (if others then 1 else 0)

def relevant (s : SortStyle) (cs : List Char) : List Char :=
  let cs := if s.dictionary then cs.filter fun c => c.isAlphanum || Collation.isBlankChar c
    else if s.visible then cs.filter Quote.isPlain else cs
  if s.folds then cs.map Char.toUpper else cs

/-- The order of two texts of which only what counts is left. -/
def compareTexts (s : SortStyle) (a b : List Char) : Ordering :=
  let order :=
    if s.kinds.contains 'n' then Collation.compareNumbers a b
    else if s.kinds.contains 'g' then Collation.compareGeneral a b
    else if s.kinds.contains 'h' then Collation.compareWithUnits a b
    else if s.kinds.contains 'M' then Collation.compareMonths a b
    else if s.kinds.contains 'V' then Collation.compareVersions a b
    else Collation.compareChars a b
  if s.reversed then order.swap else order

end SortStyle

namespace SortKey

def dropFields (separator : Option Char) : Nat → List Char → List Char
  | 0, cs => cs
  | _, [] => []
  | n + 1, cs =>
    match separator with
    | some c => dropFields separator n ((cs.dropWhile (· != c)).drop 1)
    | none =>
      dropFields separator n
        ((cs.dropWhile Collation.isFieldBlank).dropWhile (!Collation.isFieldBlank ·))

/-- The length of so many fields with what separates them, of which the last one is followed by its
separator if something of the next field belongs to the key. -/
def fieldsLength (separator : Option Char) (more : Bool) : Nat → List Char → Nat
  | 0, _ => 0
  | _, [] => 0
  | n + 1, cs =>
    match separator with
    | some c =>
      let field := cs.takeWhile (· != c)
      let rest := cs.drop field.length
      if !rest.isEmpty && (n != 0 || more) then
        field.length + 1 + fieldsLength separator more n (rest.drop 1)
      else field.length + fieldsLength separator more n rest
    | none =>
      let blanks := cs.takeWhile Collation.isFieldBlank
      let field := (cs.drop blanks.length).takeWhile (!Collation.isFieldBlank ·)
      let size := blanks.length + field.length
      size + fieldsLength separator more n (cs.drop size)

def start (k : SortKey) (separator : Option Char) (cs : List Char) : Nat :=
  let rest := dropFields separator (k.fields.getD 0) cs
  let rest := if k.style.skipsStart then rest.dropWhile Collation.isFieldBlank else rest
  let skipped := if k.fields.isSome then k.skipped else 0
  cs.length - (rest.drop skipped).length

def finish (k : SortKey) (separator : Option Char) (cs : List Char) : Nat :=
  match k.lastFields with
  | none => cs.length
  | some n =>
    if k.lastChars = 0 then fieldsLength separator false (n + 1) cs
    else
      let size := fieldsLength separator true n cs
      let rest := cs.drop size
      let blanks := if k.style.skipsEnd then (rest.takeWhile Collation.isFieldBlank).length else 0
      min cs.length (size + blanks + k.lastChars)

/-- The part of a line that a key is, as far as it counts. -/
def part (k : SortKey) (separator : Option Char) (cs : List Char) : List Char :=
  let first := k.start separator cs
  let last := k.finish separator cs
  k.style.relevant ((cs.drop first).take (last - first))

def readCount (what : String) (cs : List Char) : Except String (Nat × List Char) :=
  match takeNumber 10 cs.length cs with
  | (_, 0, _) =>
    .error (what ++ ": invalid count at start of " ++ Quote.value (String.ofList cs))
  | (n, _, rest) => .ok (n, rest)

def readStyle (start ending : Bool) (k : SortKey) : List Char → SortKey × List Char
  | [] => (k, [])
  | c :: rest =>
    match k.style.use? start ending c with
    | some style => readStyle start ending { k with style } rest
    | none => (k, c :: rest)

def bad (what source : String) : String :=
  what ++ ": invalid field specification " ++ Quote.value source

def read (source : String) : Except String SortKey := do
  let (field, cs) ← readCount "invalid number at field start" source.toList
  if field = 0 then throw (bad "field number is zero" source)
  let (skipped, cs) ← match cs with
    | '.' :: rest => do
      let (n, cs) ← readCount "invalid number after '.'" rest
      if n = 0 then throw (bad "character offset is zero" source)
      pure (n - 1, cs)
    | _ => pure (0, cs)
  let fields := if field = 1 && skipped = 0 then none else some (field - 1)
  let (k, cs) := readStyle true false { fields, skipped } cs
  let (k, cs) ← match cs with
    | ',' :: rest => do
      let (last, cs) ← readCount "invalid number after ','" rest
      if last = 0 then throw (bad "field number is zero" source)
      let (chars, cs) ← match cs with
        | '.' :: rest => readCount "invalid number after '.'" rest
        | _ => pure (0, cs)
      pure (readStyle false true { k with lastFields := some (last - 1), lastChars := chars } cs)
    | _ => pure (k, cs)
  if !cs.isEmpty then throw (bad "stray character in field spec" source)
  return k

/-- Reads a position that was given in the old way, after its sign. -/
def readOldPosition (cs : List Char) : Option (Nat × Nat × List Char) :=
  match takeNumber 10 cs.length cs with
  | (_, 0, _) => none
  | (n, _, '.' :: rest) =>
    let (m, _, after) := takeNumber 10 rest.length rest
    some (n, m, after)
  | (n, _, rest) => some (n, 0, rest)

/-- Reads a key that was given in the old way: its beginning, and its end if there is one. -/
def readOld? (first : String) (last : Option String) : Option SortKey := do
  let (field, skipped, cs) ← readOldPosition (first.toList.drop 1)
  let fields := if field = 0 && skipped = 0 then none else some field
  let (k, rest) := readStyle true false { fields, skipped } cs
  if !rest.isEmpty then none
  match last with
  | none => return k
  | some last => do
    let (field, chars, cs) ← readOldPosition (last.toList.drop 1)
    let lastFields := if chars = 0 then field - 1 else field
    let (k, rest) := readStyle false true
      { k with lastFields := some lastFields, lastChars := chars } cs
    if rest.isEmpty && !(field = 0 && chars = 0) then return k else none

end SortKey

/-- A line with its keys. -/
structure SortLine where
  text : List Char
  /-- The parts of it by which it is compared. -/
  parts : List (List Char)

namespace SortOptions

def known : KnownOptions where
  letters := [('k', .always), ('o', .always), ('S', .always), ('t', .always), ('T', .always),
    ('y', .always)] ++ KnownOptions.ofLetters "bcCdfghimMnrRsuVz"
  names := [("check", .perhaps, "check"), ("compress-program", .always, ""),
    ("debug", .never, ""), ("dictionary-order", .never, "d"), ("ignore-case", .never, "f"),
    ("files0-from", .always, ""), ("general-numeric-sort", .never, "g"),
    ("ignore-nonprinting", .never, "i"), ("key", .always, "k"), ("merge", .never, "m"),
    ("month-sort", .never, "M"), ("numeric-sort", .never, "n"),
    ("human-numeric-sort", .never, "h"), ("version-sort", .never, "V"),
    ("random-sort", .never, "R"), ("random-source", .always, ""), ("sort", .always, "sort"),
    ("output", .always, "o"), ("reverse", .never, "r"), ("stable", .never, "s"),
    ("batch-size", .always, ""), ("buffer-size", .always, "S"), ("field-separator", .always, "t"),
    ("temporary-directory", .always, "T"), ("unique", .never, "u"),
    ("zero-terminated", .never, "z"), ("parallel", .always, "parallel"),
    ("ignore-leading-blanks", .never, "b")]

def checks : List (String × String) :=
  [("quiet", "C"), ("silent", "C"), ("diagnose-first", "c")]

def orders : List (String × String) :=
  [("general-numeric", "g"), ("human-numeric", "h"), ("month", "M"), ("numeric", "n"),
    ("random", "R"), ("version", "V")]

def incompatible {α : Type} (letters : String) : Job α :=
  Job.fail ("options '-" ++ letters ++ "' are incompatible")

def setCheck (o : SortOptions) (c : Char) : Job SortOptions := do
  if o.check.any (· != c) then incompatible "cC"
  return { o with check := some c }

def setSeparator (o : SortOptions) (value : String) : Job SortOptions := do
  let c ← match value.toList with
    | [] => Job.fail "empty tab"
    | [c] => pure c
    | ['\\', '0'] => pure '\x00'
    | _ => Job.fail ("multi-character tab " ++ Quote.value value)
  if o.separator.any (· != c) then Job.fail "incompatible tabs"
  return { o with separator := some c }

def use (o : SortOptions) (key value : String) : Job SortOptions := do
  match key with
  | "c" => o.setCheck 'c'
  | "C" => o.setCheck 'C'
  | "check" =>
    if value = "" then o.setCheck 'c'
    else o.setCheck ((← Job.choose "--check" checks value).toList.headD 'c')
  | "sort" =>
    let c := (← Job.choose "--sort" orders value).toList.headD 'n'
    return { o with style := (o.style.use? true true c).getD o.style }
  | "k" =>
    match SortKey.read value with
    | .ok k => return { o with keys := o.keys ++ [k] }
    | .error message => Job.fail message
  | "m" => return { o with merges := true }
  | "o" =>
    if o.output.any (· != value) then Job.fail "multiple output files specified"
    return { o with output := some value }
  | "s" => return { o with stable := true }
  | "t" => o.setSeparator value
  | "u" => return { o with unique := true }
  | "z" => return { o with ending := 0 }
  | "S" =>
    let digits := value.toList.takeWhile Char.isDigit
    if digits.isEmpty then Job.fail ("invalid -S argument " ++ Quote.value value)
    return o
  | "parallel" =>
    match readDecimal? value.toList with
    | none => Job.fail ("invalid --parallel argument " ++ Quote.value value)
    | some 0 => Job.fail "number in parallel must be nonzero"
    | some _ => return o
  | _ =>
    match key.toList with
    | [c] => return { o with style := (o.style.use? true true c).getD o.style }
    | _ => return o

/-- The keys with their styles. A key without a style has the one of all lines. -/
def settle (o : SortOptions) : SortOptions :=
  let keys := o.keys.map fun k =>
    if k.style.isUsual && !k.style.reversed then { k with style := o.style } else k
  let keys := if keys.isEmpty && !o.style.isUsual then [{ style := o.style }] else keys
  { o with keys }

def line (o : SortOptions) (text : List Char) : SortLine :=
  ⟨text, o.keys.map fun k => k.part o.separator text⟩

def compareParts : List SortKey → List (List Char) → List (List Char) → Ordering
  | k :: keys, a :: as, b :: bs =>
    match k.style.compareTexts a b with
    | .eq => compareParts keys as bs
    | order => order
  | _, _, _ => .eq

def compareLines (o : SortOptions) (a b : SortLine) : Ordering :=
  let byKeys := compareParts o.keys a.parts b.parts
  if byKeys != .eq then byKeys
  else if !o.keys.isEmpty && (o.unique || o.stable) then .eq
  else
    let order := Collation.compareChars a.text b.text
    if o.style.reversed then order.swap else order

/-- Lines of which each differs from the one that was kept before. -/
def dropEqual (o : SortOptions) (lines : List SortLine) : List SortLine :=
  (lines.foldl (fun kept l =>
    if kept.head?.any fun k => o.compareLines k l = .eq then kept else l :: kept) []).reverse

/-- Merges two sequences of lines, in at most so many steps, after what was merged in reverse. -/
def mergeTwo (o : SortOptions) :
    Nat → List SortLine → List SortLine → List SortLine → List SortLine
  | 0, done, _, _ => done.reverse
  | _, done, [], bs => done.reverse ++ bs
  | _, done, as, [] => done.reverse ++ as
  | n + 1, done, a :: as, b :: bs =>
    if o.compareLines a b = .gt then mergeTwo o n (b :: done) (a :: as) bs
    else mergeTwo o n (a :: done) as (b :: bs)

/-- The lines of a file without what ends them, the last one first. -/
def splitLines (ending : Char) (cs : List Char) : List (List Char) :=
  let (done, last) := cs.foldl (fun (done, line) c =>
    if c = ending then (line.reverse :: done, []) else (done, c :: line))
    (([] : List (List Char)), ([] : List Char))
  if last.isEmpty then done else last.reverse :: done

def linesOfFile (o : SortOptions) (bytes : Bytes) : List SortLine :=
  ((splitLines (charOfByte o.ending) (charsOfBytes bytes)).reverse).map o.line

/-- The first line, by its number, that must not follow the line before it. -/
def firstDisorder (o : SortOptions) : Nat → List SortLine → Option (Nat × SortLine)
  | number, a :: b :: rest =>
    let order := o.compareLines a b
    if order = .gt || (order = .eq && o.unique) then some (number + 1, b)
    else o.firstDisorder (number + 1) (b :: rest)
  | _, _ => none

end SortOptions

namespace Tool

/-- Separates the positions that were given to `sort` in the old way from its other words. Words
that follow an option with a value are not looked at. -/
def oldKeys : List String → List SortKey × List String
  | [] => ([], [])
  | "--" :: rest => ([], "--" :: rest)
  | word :: rest =>
    if ["-k", "-o", "-t", "-S", "-T"].contains word then
      match rest with
      | [] => ([], [word])
      | value :: rest =>
        let (keys, words) := oldKeys rest
        (keys, word :: value :: words)
    else if word.startsWith "+" then
      let ending := rest.head?.filter fun w =>
        match w.toList with
        | '-' :: c :: _ => c.isDigit
        | _ => false
      match SortKey.readOld? word ending with
      | none =>
        let (keys, words) := oldKeys rest
        (keys, word :: words)
      | some k =>
        let (keys, words) := oldKeys (if ending.isSome then rest.drop 1 else rest)
        (k :: keys, words)
    else
      let (keys, words) := oldKeys rest
      (keys, word :: words)
termination_by words => words.length
decreasing_by all_goals (try split) <;> simp +arith

/-- Fails because of a fault of the system with a file. -/
def failSort {α : Type} (what name : String) (e : Errno) : Job α :=
  Job.fail (what ++ ": " ++ Quote.subject name ++ ": " ++ e.wording)

def checkReadable (files : List String) : Job Unit := do
  for path in files do
    if path != "-" then
      match ← Job.openFile path .reading with
      | .ok fd => (Task.close fd : Task _)
      | .error e => failSort "cannot read" path e

def readForSort (path : String) : Job Bytes := do
  let opened ← if path = "-" then pure (.ok 0) else Job.openFile path .reading
  match opened with
  | .error e => failSort "open failed" path e
  | .ok fd =>
    match ← (Task.readAll fd 65536 : Task _) with
    | .error e => failSort "read failed" path e
    | .ok bytes =>
      if path != "-" then (Task.close fd : Task _)
      return bytes

def writeSorted (o : SortOptions) (fd : Nat) (name : String) (lines : List SortLine) :
    Job Unit := do
  let bytes := lines.flatMap fun l => bytesOfChars l.text ++ [o.ending]
  match ← (Task.writeAll fd bytes : Task _) with
  | .ok () => return
  | .error e =>
    let what := if bytes.length < Job.blockSize then "fflush failed" else "write failed"
    modify fun d => { d with fault := some e }
    failSort what name e

def checkOrder (o : SortOptions) (letter : Char) (path : String) : Job Nat := do
  let bytes ← readForSort path
  match o.firstDisorder 1 (o.linesOfFile bytes) with
  | none => return 0
  | some (number, l) =>
    if letter = 'c' then
      Job.complain (path ++ ":" ++ decimal number ++ ": disorder: " ++ String.ofList l.text)
    return 1

def sort : Tool :=
  Job.toTool 2 fun words _ => do
    let (old, words) := oldKeys words
    let (o, files) ← Job.readOptions SortOptions.known words ({ keys := old } : SortOptions)
      SortOptions.use
    let o := o.settle
    for k in o.keys do
      if k.style.conflicts then SortOptions.incompatible k.style.letters
    let files := filesOrInput files
    match o.check with
    | some letter =>
      if 1 < files.length then
        Job.fail ("extra operand " ++ Quote.name (files.getD 1 "") ++ " not allowed with -"
          ++ letter.toString)
      if o.output.isSome then SortOptions.incompatible (letter.toString ++ "o")
      checkOrder o letter (files.headD "-")
    | none =>
      checkReadable files
      let output ← match o.output with
        | none => pure (standardOutput, "standard output")
        | some path =>
          let access : Access := { writes := true, creates := some Access.defaultBits }
          match ← Job.openFile path access with
          | .ok fd => pure (fd, path)
          | .error e => failSort "open failed" path e
      if files.contains "-" && !o.merges then
        if let .error e ← (Task.call (.describeOpen standardInput) : Task _) then
          failSort "stat failed" "-" e
      let inputs ← files.mapM fun path => return o.linesOfFile (← readForSort path)
      let all := inputs.flatten
      let sorted := if o.merges then
          inputs.foldl (fun done lines => o.mergeTwo (done.length + lines.length) [] done lines) []
        else all.mergeSort fun a b => o.compareLines a b != .gt
      let sorted := if o.unique then o.dropEqual sorted else sorted
      if let some path := o.output then
        let _ ← Job.openFile path { writes := true, truncates := true }
      writeSorted o output.1 output.2 sorted
      return 0

end Tool

end ShellPipeline
