import ShellPipeline.Number.Digits

/-!
# Binary numbers with a point

A number is stored as a mantissa of so many bits and a power of two. What is read or computed is
rounded to the nearest such number, and a number is written in decimal as exactly as is asked for.
-/

namespace ShellPipeline

/-- A format of binary numbers. -/
structure BinaryFormat where
  /-- The number of bits of the mantissa. -/
  bits : Nat
  /-- All numbers are below two to the power of this. -/
  top : Int
deriving DecidableEq, Repr

def BinaryFormat.double : BinaryFormat := ⟨53, 1024⟩

def BinaryFormat.extended : BinaryFormat := ⟨64, 16384⟩

/-- The size of a number. -/
inductive Magnitude where
  /-- A mantissa times a power of two. -/
  | finite (mantissa : Nat) (exponent : Int)
  | infinite
  | none
deriving DecidableEq, Repr

/-- A number with its sign. -/
structure Binary where
  negative : Bool
  magnitude : Magnitude
deriving DecidableEq, Repr

namespace Binary

def bitSize (n : Nat) : Nat :=
  if n = 0 then 0 else n.log2 + 1

/-- Rounds a quotient of natural numbers. Answers also whether it is out of range. -/
def ofQuotient (f : BinaryFormat) (num den : Nat) : Magnitude × Bool :=
  if num = 0 then (.finite 0 0, false)
  else
    let guess : Int := (bitSize num : Int) - bitSize den - f.bits
    let scaled (e : Int) : Nat × Nat :=
      if 0 ≤ e then (num, den <<< e.toNat) else (num <<< (-e).toNat, den)
    let fits (e : Int) : Bool :=
      let (a, b) := scaled e
      bitSize (a / b) ≤ f.bits
    let e := if fits guess then guess else guess + 1
    let (a, b) := scaled e
    let m := roundedQuotient a b
    let (m, e) := if f.bits < bitSize m then (m / 2, e + 1) else (m, e)
    if f.top < e + bitSize m then (.infinite, true)
    else if e + bitSize m < 3 - f.top - f.bits then (.finite 0 0, true)
    else (.finite m e, false)

/-- The fraction that a mantissa times a power of two is. -/
def quotient (m : Nat) (e : Int) : Nat × Nat :=
  if 0 ≤ e then (m <<< e.toNat, 1) else (m, 1 <<< (-e).toNat)

/-- Larger exponents than this one are out of range in every format. -/
def maxExponent : Nat := 20000

/-- Reads an exponent after its letter, if there is one. -/
def readExponent (letters : List Char) (cs : List Char) : Int × List Char :=
  match cs with
  | c :: rest =>
    if !letters.contains c then (0, cs)
    else
      let (negative, digits) := match rest with
        | '-' :: r => (true, r)
        | '+' :: r => (false, r)
        | r => (false, r)
      let (n, size, after) := takeNumber 10 digits.length digits
      if size = 0 then (0, cs)
      else (if negative then -(min n maxExponent : Nat) else (min n maxExponent : Nat), after)
  | [] => (0, [])

/-- Reads digits with a point among them. Answers the number without the point, the number of
digits after it, how many digits there are, and the rest. -/
def readPointed (base : Nat) (cs : List Char) : Nat × Nat × Nat × List Char :=
  let (_, size, after) := takeNumber base cs.length cs
  match after with
  | '.' :: rest =>
    let (_, more, after) := takeNumber base rest.length rest
    (numberOf base (cs.take size ++ rest.take more), more, size + more,
      if size + more = 0 then cs else after)
  | _ => (numberOf base (cs.take size), 0, size, after)

/-- Whether a text begins with a word, whatever the case of its letters. -/
def beginsWith (word : String) (cs : List Char) : Bool :=
  (cs.take word.length).map Char.toLower = word.toList

/-- The number of characters of what follows a number that is none, between brackets. -/
def tagLength (cs : List Char) : Nat :=
  match cs with
  | '(' :: rest =>
    let tag := rest.takeWhile fun c => c.isAlphanum || c = '_'
    if (rest.drop tag.length).head? = some ')' then tag.length + 2 else 0
  | _ => 0

def readFraction (cs : List Char) : Option (Nat × Nat × List Char) :=
  if beginsWith "0x" cs && (readPointed 16 (cs.drop 2)).2.2.1 != 0 then
    let (n, places, _, rest) := readPointed 16 (cs.drop 2)
    let (e, rest) := readExponent ['p', 'P'] rest
    let (num, den) := quotient n (e - 4 * places)
    some (num, den, rest)
  else
    let (n, places, size, rest) := readPointed 10 cs
    if size = 0 then none
    else
      let (e, rest) := readExponent ['e', 'E'] rest
      let e := e - places
      let (num, den) := if 0 ≤ e then (n * power 10 e.toNat, 1) else (n, power 10 (-e).toNat)
      some (num, den, rest)

/-- Reads the size of a number. Answers also whether it is out of range, and the rest. -/
def readMagnitude (f : BinaryFormat) (cs : List Char) : Option (Magnitude × Bool × List Char) :=
  if beginsWith "infinity" cs then some (.infinite, false, cs.drop 8)
  else if beginsWith "inf" cs then some (.infinite, false, cs.drop 3)
  else if beginsWith "nan" cs then
    let rest := cs.drop 3
    some (.none, false, rest.drop (tagLength rest))
  else
    (readFraction cs).map fun (num, den, rest) =>
      let (m, out) := ofQuotient f num den
      (m, out, rest)

/-- A text without the blanks and the sign before a number, and whether that sign is a minus. -/
def splitSign (cs : List Char) : Bool × List Char :=
  match cs.dropWhile fun c => c = ' ' || ('\t' ≤ c && c ≤ '\r') with
  | '-' :: rest => (true, rest)
  | '+' :: rest => (false, rest)
  | rest => (false, rest)

/-- Reads a number at the beginning of a text, after blanks. Answers also whether it is out of
range, and the rest. -/
def read (f : BinaryFormat) (cs : List Char) : Option (Binary × Bool × List Char) :=
  let (negative, cs) := splitSign cs
  (readMagnitude f cs).map fun (m, out, rest) => (⟨negative, m⟩, out, rest)

/-- The exponent of ten of the first digit of a fraction that is not zero. -/
def leadingPower (num den : Nat) : Int :=
  let guess : Int := (digitsIn 10 num).length - ((digitsIn 10 den).length : Nat)
  let reaches (e : Int) : Bool :=
    if 0 ≤ e then den * power 10 e.toNat ≤ num else den ≤ num * power 10 (-e).toNat
  if reaches guess then guess else guess - 1

def fixedDigits (num den places : Nat) : List Char × List Char :=
  let digits := digitsIn 10 (roundedQuotient (num * power 10 places) den)
  let digits := List.replicate (places + 1 - digits.length) '0' ++ digits
  (digits.take (digits.length - places), digits.drop (digits.length - places))

/-- The digits of a fraction, one before and so many after the point, and the exponent of ten. -/
def scientificDigits (num den places : Nat) : List Char × Int :=
  if num = 0 then (List.replicate (places + 1) '0', 0)
  else
    let e := leadingPower num den
    let shift : Int := places - e
    let n := if 0 ≤ shift then roundedQuotient (num * power 10 shift.toNat) den
      else roundedQuotient num (den * power 10 (-shift).toNat)
    let digits := digitsIn 10 n
    if places + 1 < digits.length then (digits.take (places + 1), e + 1) else (digits, e)

/-- A number as a fraction. What is not finite counts as zero. -/
def fraction (x : Binary) : Int × Nat :=
  match x.magnitude with
  | .finite m e =>
    let (num, den) := quotient m e
    (if x.negative then -(num : Int) else num, den)
  | _ => (0, 1)

def isFinite (x : Binary) : Bool :=
  match x.magnitude with
  | .finite _ _ => true
  | _ => false

def ofFraction (f : BinaryFormat) (num : Int) (den : Nat) : Binary :=
  ⟨num < 0, (ofQuotient f num.natAbs den).1⟩

def add (f : BinaryFormat) (x y : Binary) : Binary :=
  if !x.isFinite then x
  else if !y.isFinite then y
  else
    let (a, b) := x.fraction
    let (c, d) := y.fraction
    ofFraction f (a * d + c * b) (b * d)

/-- The rounded product of a number and a natural number. -/
def times (f : BinaryFormat) (n : Nat) (x : Binary) : Binary :=
  if !x.isFinite then x
  else
    let (a, b) := x.fraction
    ofFraction f (n * a) b

/-- Compares numbers. What is no number comes first. -/
def compareTo (a b : Binary) : Ordering :=
  let size (x : Binary) : Option (Nat × Nat) := match x.magnitude with
    | .finite m e => some (quotient m e)
    | _ => none
  let rank (x : Binary) : Nat := match x.magnitude with
    | .none => 0
    | .infinite => if x.negative then 1 else 3
    | .finite _ _ => 2
  match size a, size b with
  | some (p, q), some (r, s) =>
    let value (x : Binary) (n : Nat) : Int := if x.negative then -(n : Int) else n
    compare (value a (p * s)) (value b (r * q))
  | _, _ => compare (rank a) (rank b)

end Binary

end ShellPipeline
