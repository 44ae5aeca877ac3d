import ShellPipeline.Number.Directive
import ShellPipeline.Tool.Option
import ShellPipeline.Tool.Quote

/-!
# Counting up and down

`seq` writes the numbers from one to another with the same step between them. They are written with
as many places as the first one and the step have, unless a format says how.
-/

namespace ShellPipeline

/-- A number between which `seq` counts. -/
structure Bound where
  value : Binary
  width : Int
  /-- The number of places, if its written form has a fixed number of them. -/
  places : Option Int

/-- A format with one directive. -/
structure SequenceFormat where
  before : List Char := []
  directive : Directive
  after : List Char := []

namespace Bound

def leadingInteger (cs : List Char) : Int :=
  let (negative, digits) := Binary.splitSign cs
  let (n, _, _) := takeNumber 10 digits.length digits
  if negative then -(n : Int) else n

/-- The width and the number of places of a decimal numeral. -/
def measures (cs : List Char) : Int × Int :=
  let point := cs.findIdx? (· = '.')
  let letter := cs.findIdx? fun c => c = 'e' || c = 'E'
  let length : Int := cs.length
  let (places, width) : Nat × Int := match point with
    | none => (0, length)
    | some i =>
      let places := ((cs.drop (i + 1)).takeWhile fun c => c != 'e' && c != 'E').length
      let bare := i = 0 || !(cs.getD (i - 1) ' ').isDigit
      (places, if places = 0 then length - 1 else if bare then length + 1 else length)
  match letter with
  | none => (width, places)
  | some i =>
    let e := leadingInteger (cs.drop (i + 1))
    let shown : Int := if e < 0 then places - e else places - min (places : Int) e
    let width := width - (length - i)
    if e < 0 then
      let width := match point with
        | some j => if i = j + 1 then width + 1 else width
        | none => width + 1
      (width - e, shown)
    else
      let width := if point.isSome && shown = 0 && places != 0 then width - 1 else width
      (width + (e - min (places : Int) e), shown)

def read? (word : String) : Option Bound :=
  let cs := word.toList.dropWhile fun c => c = ' ' || ('\t' ≤ c && c ≤ '\r') || c = '+'
  match Binary.read .extended word.toList with
  | some (x, false, []) =>
    match x.magnitude with
    | .none => none
    | .infinite => some ⟨x, 0, none⟩
    | .finite _ _ =>
      if cs.any fun c => c = 'x' || c = 'X' then
        let fixed := !cs.contains '.' && !cs.contains 'p' && !cs.contains 'P'
        some ⟨x, 0, if fixed then some 0 else none⟩
      else
        let (width, places) := measures cs
        some ⟨x, width, some places⟩
  | _ => none

end Bound

namespace SequenceFormat

def split (done : List Char) : List Char → Option (List Char × List Char)
  | [] => none
  | '%' :: '%' :: rest => split ('%' :: done) rest
  | '%' :: rest => some (done.reverse, rest)
  | c :: rest => split (c :: done) rest

def plain? : List Char → Option (List Char)
  | [] => some []
  | '%' :: '%' :: rest => (plain? rest).map ('%' :: ·)
  | '%' :: _ => none
  | c :: rest => (plain? rest).map (c :: ·)

/-- Reads a format, or says what is wrong with it. -/
def read (format : String) : Except String SequenceFormat :=
  let bad (what : String) : String := "format " ++ Quote.value format ++ " " ++ what
  match split [] format.toList with
  | none => .error (bad "has no % directive")
  | some (before, cs) =>
    let flags := cs.takeWhile fun c => ['-', '+', '#', '0', ' ', '\''].contains c
    let (width, _, cs) := takeNumber 10 cs.length (cs.drop flags.length)
    let (precision, cs) : Option Nat × List Char := match cs with
      | '.' :: rest =>
        let (n, _, rest) := takeNumber 10 rest.length rest
        (some n, rest)
      | _ => (none, cs)
    let cs := if cs.head? = some 'L' then cs.drop 1 else cs
    match cs with
    | [] => .error (bad "ends in %")
    | conversion :: rest =>
      if !"efgaEFGA".toList.contains conversion then
        .error (bad ("has unknown %" ++ conversion.toString ++ " directive"))
      else match plain? rest with
        | none => .error (bad "has too many % directives")
        | some after =>
          .ok ⟨before, ⟨flags, width, precision, conversion⟩, after⟩

def usual (wide : Bool) (first step last : Bound) : SequenceFormat :=
  match first.places, step.places, last.places with
  | some p, some q, some r =>
    let places := max p q
    if wide then
      let firstWidth := first.width + (places - p) + (if p = 0 && places != 0 then 1 else 0)
      let lastWidth := last.width + (places - r)
        - (if r != 0 && places = 0 then 1 else 0) + (if r = 0 && places != 0 then 1 else 0)
      ⟨[], ⟨['0'], (max firstWidth lastWidth).toNat, some places.toNat, 'f'⟩, []⟩
    else ⟨[], ⟨[], 0, some places.toNat, 'f'⟩, []⟩
  | some p, some q, none =>
    if wide || last.value.isFinite then ⟨[], ⟨[], 0, none, 'g'⟩, []⟩
    else ⟨[], ⟨[], 0, some (max p q).toNat, 'f'⟩, []⟩
  | _, _, _ => ⟨[], ⟨[], 0, none, 'g'⟩, []⟩

def write (f : SequenceFormat) (x : Binary) : List Char :=
  f.before ++ f.directive.binary .extended x ++ f.after

/-- The number that a number becomes when it is written and read again. -/
def reread (f : SequenceFormat) (x : Binary) : Option Binary :=
  (Binary.read .extended (f.directive.binary .extended x)).map Prod.fst

end SequenceFormat

namespace Tool

/-- What `seq` is asked for. -/
structure SequenceOptions where
  format : Option String := none
  separator : String := "\n"
  wide : Bool := false

def sequenceOptions : KnownOptions where
  letters := [('f', .always), ('s', .always), ('w', .never)]
  names := [("equal-width", .never, "w"), ("format", .always, "f"), ("separator", .always, "s")]
  onlyFirst := true
  sparesNumbers := true

/-- A sequence of numbers. -/
structure Progression where
  first : Bound
  step : Bound
  /-- The number that is not passed over. -/
  last : Bound

def Progression.at (p : Progression) (i : Nat) : Binary :=
  if i = 0 then p.first.value
  else Binary.add .extended p.first.value (Binary.times .extended i p.step.value)

def Progression.isBeyond (p : Progression) (x : Binary) : Bool :=
  Binary.compareTo x p.last.value = (if p.step.value.negative then .lt else .gt)

/-- Whether a number beyond the last one is written like the last one. -/
def Progression.looksLast (p : Progression) (f : SequenceFormat) (x : Binary) : Bool :=
  (f.reread x).any fun y => Binary.compareTo y p.last.value = .eq

/-- The written forms of the numbers from a position on, in reverse, at most so many, and whether
there are more. The last form that was written before is known. -/
def Progression.write (p : Progression) (f : SequenceFormat) (previous : List Char) :
    Nat → Nat → List (List Char) → List (List Char) × Bool
  | 0, _, done => (done, true)
  | n + 1, i, done =>
    let x := p.at i
    let shown := f.write x
    if p.isBeyond x then
      if i != 0 && p.looksLast f x && shown != done.headD previous then (shown :: done, false)
      else (done, false)
    else p.write f previous n (i + 1) (shown :: done)

/-- The number of numbers that are written at once. -/
def sequenceBlock : Nat := 2048

def writeSequence (p : Progression) (f : SequenceFormat) (separator : String) : Job Unit := do
  let separator := separator.toList
  let (count, _) ← keepOn (m := Job) (fun (i, previous) => do
    let (shown, more) := p.write f previous sequenceBlock i []
    let cs := shown.foldl (fun cs s => (if cs.isEmpty then s else s ++ separator ++ cs)) []
    unless shown.isEmpty do
      Job.put (bytesOfChars (if i = 0 then cs else separator ++ cs))
      Job.checkWritten
    return ((i + shown.length, shown.headD []), more)) roundLimit (0, [])
  if count != 0 then Job.print "\n"

/-- The decimal forms of natural numbers, each after a separator but the first one, in reverse. -/
def naturalForms (separator : Char) (step : Nat) (last : Option Nat) :
    Nat → Nat → List Char → List Char × Option Nat
  | 0, n, done => (done, some n)
  | rounds + 1, n, done =>
    if last.any (· < n) then (done, none)
    else
      let done := if done.isEmpty then done else separator :: done
      naturalForms separator step last rounds (n + step) ((digitsIn 10 n).reverse ++ done)

def writeNaturals (separator : Char) (first step : Nat) (last : Option Nat) : Job Unit := do
  unless last.any (· < first) do
    let _ ← keepOn (m := Job) (fun n => do
      let (cs, next) := naturalForms separator step last sequenceBlock n []
      unless cs.isEmpty do
        Job.put (bytesOfChars ((if n = first then [] else [separator]) ++ cs.reverse))
        Job.checkWritten
      return (next.getD n, next.isSome)) roundLimit first
    Job.print "\n"

/-- The natural number that a bound is, as it was written or as it was rounded. -/
def naturalOf? (word : String) (b : Bound) : Option Nat :=
  if !word.isEmpty && word.toList.all Char.isDigit then some (numberOf 10 word.toList)
  else
    let (num, den) := b.value.fraction
    if b.places = some 0 && !b.value.negative && b.value.isFinite && num % (den : Int) = 0 then
      some (num.toNat / den)
    else none

/-- The largest step with which natural numbers are counted exactly. -/
def maxNaturalStep : Nat := 200

def readBound (word : String) : Job Bound := do
  match Bound.read? word with
  | some b => return b
  | none =>
    match Binary.read .extended word.toList with
    | some (⟨_, .none⟩, _, []) =>
      Job.misuse ("invalid 'not-a-number' argument: " ++ Quote.value word)
    | _ => Job.misuse ("invalid floating point argument: " ++ Quote.value word)

def seq : Tool :=
  Job.toTool 1 fun words _ => do
    let (o, words) ← Job.readOptions sequenceOptions words ({} : SequenceOptions)
      fun o key value => pure (match key with
        | "f" => { o with format := some value }
        | "s" => { o with separator := value }
        | _ => { o with wide := true })
    if words.isEmpty then Job.misuse "missing operand"
    if 3 < words.length then Job.misuse ("extra operand " ++ Quote.value (words.getD 3 ""))
    let format ← match o.format with
      | none => pure none
      | some format =>
        match SequenceFormat.read format with
        | .error message => Job.fail message
        | .ok f => pure (some f)
    if format.isSome && o.wide then
      Job.misuse "format string may not be specified when printing equal width strings"
    let run (first step last : String) : Job Nat := do
      let first' ← readBound first
      let step' ← readBound step
      let last' ← readBound last
      if step'.value.fraction.1 = 0 && step'.value.isFinite then
        Job.misuse ("invalid Zero increment value: " ++ Quote.value step)
      let endless := !last'.value.isFinite && !last'.value.negative
      match naturalOf? first first', naturalOf? step step', naturalOf? last last' with
      | some a, some b, c =>
        if format.isNone && !o.wide && b ≤ maxNaturalStep && (c.isSome || endless)
            && o.separator.length = 1 then
          writeNaturals (o.separator.toList.headD ' ') a b c
          return 0
      | _, _, _ => pure ()
      writeSequence ⟨first', step', last'⟩ (format.getD (.usual o.wide first' step' last'))
        o.separator
      return 0
    match words with
    | [last] => run "1" "1" last
    | [first, last] => run first "1" last
    | first :: step :: last :: _ => run first step last
    | [] => return 1

end Tool

end ShellPipeline
