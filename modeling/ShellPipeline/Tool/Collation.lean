import ShellPipeline.Number.Binary
import ShellPipeline.Text.Locale

/-!
# Orders of texts

The orders in which lines can be put: by their characters, by the numbers or the months that they
begin with, and as versions.
-/

namespace ShellPipeline

namespace Collation

def isBlankChar (c : Char) : Bool :=
  c = ' ' || c = '\t'

def isFieldBlank (c : Char) : Bool :=
  isBlankChar c || c = '\n'

def compareChars (a b : List Char) : Ordering :=
  match a, b with
  | [], [] => .eq
  | [], _ :: _ => .lt
  | _ :: _, [] => .gt
  | x :: a, y :: b => if x < y then .lt else if y < x then .gt else compareChars a b

/-- A decimal number that a text begins with. -/
structure Decimal where
  negative : Bool
  /-- The digits before the point, without leading zeros. -/
  whole : List Char
  /-- The digits after the point, without trailing zeros. -/
  places : List Char
deriving DecidableEq, Repr

def Decimal.read (cs : List Char) : Decimal :=
  let cs := cs.dropWhile isFieldBlank
  let (negative, cs) := match cs with
    | '-' :: rest => (true, rest)
    | _ => (false, cs)
  let whole := cs.takeWhile Char.isDigit
  let places := match cs.drop whole.length with
    | '.' :: rest => rest.takeWhile Char.isDigit
    | _ => []
  ⟨negative, whole.dropWhile (· = '0'), (places.reverse.dropWhile (· = '0')).reverse⟩

def Decimal.isZero (d : Decimal) : Bool :=
  d.whole.isEmpty && d.places.isEmpty

def Decimal.compareSizes (a b : Decimal) : Ordering :=
  ((compare a.whole.length b.whole.length).then (compareChars a.whole b.whole)).then
    (compareChars a.places b.places)

def Decimal.compareTo (a b : Decimal) : Ordering :=
  let below (d : Decimal) : Bool := d.negative && !d.isZero
  match below a, below b with
  | true, false => .lt
  | false, true => .gt
  | true, true => b.compareSizes a
  | false, false => a.compareSizes b

/-- The order of two texts by the decimal numbers they begin with. -/
def compareNumbers (a b : List Char) : Ordering :=
  (Decimal.read a).compareTo (Decimal.read b)

def units : List (Char × Int) :=
  [('k', 1), ('K', 1), ('M', 2), ('G', 3), ('T', 4), ('P', 5), ('E', 6), ('Z', 7), ('Y', 8),
    ('R', 9), ('Q', 10)]

/-- The rank of the unit of the number that a text begins with. -/
def unitRank (cs : List Char) : Int :=
  let d := Decimal.read cs
  let cs := cs.dropWhile isFieldBlank
  let cs := if d.negative then cs.drop 1 else cs
  let after := cs.dropWhile Char.isDigit
  let after := match after with
    | '.' :: rest => rest.dropWhile Char.isDigit
    | _ => after
  let rank := (after.head?.bind fun c => units.lookup c).getD 0
  if d.isZero then 0 else if d.negative then -rank else rank

/-- The order of two texts by the numbers with units they begin with. -/
def compareWithUnits (a b : List Char) : Ordering :=
  (compare (unitRank a) (unitRank b)).then (compareNumbers a b)

/-- The order of two texts by the numbers of any kind they begin with. What is no number comes
first. -/
def compareGeneral (a b : List Char) : Ordering :=
  match Binary.read .extended a, Binary.read .extended b with
  | none, none => .eq
  | none, some _ => .lt
  | some _, none => .gt
  | some (x, _), some (y, _) => Binary.compareTo x y

def months : List (List Char × Nat) :=
  [("JAN", 1), ("FEB", 2), ("MAR", 3), ("APR", 4), ("MAY", 5), ("JUN", 6), ("JUL", 7),
    ("AUG", 8), ("SEP", 9), ("OCT", 10), ("NOV", 11), ("DEC", 12)].map fun m => (m.1.toList, m.2)

/-- The number of the month that a text begins with, or zero. -/
def monthOf (cs : List Char) : Nat :=
  (months.lookup (((cs.dropWhile isBlankChar).take 3).map Char.toUpper)).getD 0

/-- The order of two texts by the months they begin with. -/
def compareMonths (a b : List Char) : Ordering :=
  compare (monthOf a) (monthOf b)

def versionRank (c : Char) : Int :=
  if c.isDigit then 0
  else if c.isAlpha then c.toNat
  else if c = '~' then -2
  else c.toNat + 256

/-- The order of two versions, in at most so many steps. -/
def compareVersionParts : Nat → List Char → List Char → Ordering
  | 0, _, _ => .eq
  | steps + 1, a, b =>
    if a.isEmpty && b.isEmpty then .eq
    else
      let rank (cs : List Char) : Int := match cs with
        | [] => -1
        | c :: _ => versionRank c
      let digitOrEnd (cs : List Char) : Bool := cs.head?.all Char.isDigit
      if !digitOrEnd a || !digitOrEnd b then
        match compare (rank a) (rank b) with
        | .eq => compareVersionParts steps (a.drop 1) (b.drop 1)
        | order => order
      else
        let x := a.takeWhile Char.isDigit
        let y := b.takeWhile Char.isDigit
        let p := x.dropWhile (· = '0')
        let q := y.dropWhile (· = '0')
        match (compare p.length q.length).then (compareChars p q) with
        | .eq =>
          if x.isEmpty && y.isEmpty then
            match compare (rank a) (rank b) with
            | .eq => compareVersionParts steps (a.drop 1) (b.drop 1)
            | order => order
          else compareVersionParts steps (a.drop x.length) (b.drop y.length)
        | order => order

/-- The length of the endings of a name: points, each before a letter or a tilde and more letters,
digits and tildes. -/
def suffixLength (cs : List Char) : Nat :=
  let rec go : Nat → Nat → List Char → Nat
    | 0, found, _ => found
    | steps + 1, found, reversed =>
      let word := reversed.takeWhile fun c => c.isAlphanum || c = '~'
      match word.reverse, reversed.drop word.length with
      | c :: _, '.' :: rest =>
        if c.isDigit || rest.isEmpty then found
        else go steps (found + word.length + 1) rest
      | _, _ => found
  go cs.length 0 cs.reverse

/-- The order of two texts as versions of files. Hidden files come first, and endings count only
if the rest is equal. -/
def compareVersions (a b : List Char) : Ordering :=
  if a = b then .eq
  else
    let kind (cs : List Char) : Nat :=
      if cs = [] then 0 else if cs = ['.'] then 1 else if cs = ['.', '.'] then 2
      else if cs.head? = some '.' then 3 else 4
    match compare (kind a) (kind b) with
    | .eq =>
      let bare (cs : List Char) : List Char := cs.take (cs.length - suffixLength cs)
      let steps := a.length + b.length + 1
      match compareVersionParts steps (bare a) (bare b) with
      | .eq => compareVersionParts steps a b
      | order => order
    | order => order

end Collation

end ShellPipeline
