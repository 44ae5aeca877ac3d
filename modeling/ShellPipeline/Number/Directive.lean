import ShellPipeline.Number.Binary

/-!
# Directives

A directive says how a number or a text is written: how wide it is at least, how precise, and where
and with what it is filled up.
-/

namespace ShellPipeline

/-- How something is written. -/
structure Directive where
  flags : List Char := []
  width : Nat := 0
  precision : Option Nat := none
  /-- The letter that says what is written. -/
  conversion : Char := 'd'
deriving DecidableEq, Repr

namespace Directive

def has (d : Directive) (flag : Char) : Bool :=
  d.flags.contains flag

def pad (d : Directive) (cs : List Char) : List Char :=
  let fill := List.replicate (d.width - cs.length) ' '
  if d.has '-' then cs ++ fill else fill ++ cs

/-- Fills up to the least width, with zeros after the sign if that is asked for. -/
def padNumber (d : Directive) (zeros : Bool) (sign digits : List Char) : List Char :=
  if zeros && d.has '0' && !d.has '-' then
    sign ++ List.replicate (d.width - sign.length - digits.length) '0' ++ digits
  else d.pad (sign ++ digits)

def sign (d : Directive) (negative : Bool) : List Char :=
  if negative then ['-'] else if d.has '+' then ['+'] else if d.has ' ' then [' '] else []

def text (d : Directive) (cs : List Char) : List Char :=
  d.pad (d.precision.elim cs cs.take)

def precise (d : Directive) (n : Nat) (digits : List Char) : List Char :=
  match d.precision with
  | none => digits
  | some p => if n = 0 && p = 0 then [] else List.replicate (p - digits.length) '0' ++ digits

def integer (d : Directive) (i : Int) : List Char :=
  let digits := d.precise i.natAbs (digitsIn 10 i.natAbs)
  d.padNumber d.precision.isNone (d.sign (i < 0)) digits

/-- A natural number in the base that the conversion says. -/
def natural (d : Directive) (n : Nat) : List Char :=
  let zeros := d.precision.isNone
  match d.conversion with
  | 'o' =>
    let digits := d.precise n (digitsIn 8 n)
    let digits := if d.has '#' && digits.head? != some '0' then '0' :: digits else digits
    d.padNumber zeros [] digits
  | 'x' =>
    let mark := if d.has '#' && n != 0 then ['0', 'x'] else []
    d.padNumber zeros mark (d.precise n (digitsIn 16 n))
  | 'X' =>
    let mark := if d.has '#' && n != 0 then ['0', 'X'] else []
    d.padNumber zeros mark ((d.precise n (digitsIn 16 n)).map Char.toUpper)
  | _ => d.padNumber zeros [] (d.precise n (digitsIn 10 n))

/-- Digits after a point, if there are any or the point is asked for. -/
def afterPoint (d : Directive) (digits : List Char) : List Char :=
  if digits.isEmpty && !d.has '#' then [] else '.' :: digits

def exponent (letter : Char) (least : Nat) (e : Int) : List Char :=
  let digits := digitsIn 10 e.natAbs
  [letter, if e < 0 then '-' else '+'] ++ List.replicate (least - digits.length) '0' ++ digits

def withoutZeros (digits : List Char) : List Char :=
  (digits.reverse.dropWhile (· = '0')).reverse

/-- A fraction with so many significant digits, in the shorter way. -/
def general (d : Directive) (num den : Nat) : List Char :=
  let p := max 1 (d.precision.getD 6)
  let trim (digits : List Char) : List Char := if d.has '#' then digits else withoutZeros digits
  let (digits, e) := Binary.scientificDigits num den (p - 1)
  if e < -4 || (p : Int) ≤ e then
    digits.take 1 ++ d.afterPoint (trim (digits.drop 1)) ++ exponent 'e' 2 e
  else
    let (whole, places) := Binary.fixedDigits num den (p - 1 - e).toNat
    whole ++ d.afterPoint (trim places)

def hexadecimal (d : Directive) (f : BinaryFormat) (m : Nat) (e : Int) : List Char :=
  let places := (f.bits - 1) / 4
  let size := Binary.bitSize m
  let full := if m = 0 then 0 else m <<< (f.bits - size)
  let e := if m = 0 then 0 else e - (f.bits - size : Nat) + 4 * places
  let unit := 1 <<< (4 * places)
  let (lead, digits) := match d.precision with
    | none =>
      let digits := digitsIn 16 (full % unit)
      (full / unit, withoutZeros (List.replicate (places - digits.length) '0' ++ digits))
    | some p =>
      if places ≤ p then
        let digits := digitsIn 16 (full % unit)
        (full / unit, List.replicate (places - digits.length) '0' ++ digits
          ++ List.replicate (p - places) '0')
      else
        let kept := roundedQuotient full (1 <<< (4 * (places - p)))
        let unit := 1 <<< (4 * p)
        let digits := digitsIn 16 (kept % unit)
        (kept / unit, if p = 0 then [] else List.replicate (p - digits.length) '0' ++ digits)
  digitsIn 16 lead ++ d.afterPoint digits ++ exponent 'p' 1 e

def raise (d : Directive) (cs : List Char) : List Char :=
  if d.conversion.isUpper then cs.map Char.toUpper else cs

def fraction (d : Directive) (negative : Bool) (num den : Nat) : List Char :=
  let sign := d.sign negative
  match d.conversion.toLower with
  | 'e' =>
    let (digits, e) := Binary.scientificDigits num den (d.precision.getD 6)
    d.padNumber true sign
      (d.raise (digits.take 1 ++ d.afterPoint (digits.drop 1) ++ exponent 'e' 2 e))
  | 'g' => d.padNumber true sign (d.raise (d.general num den))
  | _ =>
    let (whole, places) := Binary.fixedDigits num den (d.precision.getD 6)
    d.padNumber true sign (whole ++ d.afterPoint places)

def binary (d : Directive) (f : BinaryFormat) (x : Binary) : List Char :=
  match x.magnitude with
  | .infinite => d.padNumber false (d.sign x.negative) (d.raise "inf".toList)
  | .none => d.padNumber false (d.sign x.negative) (d.raise "nan".toList)
  | .finite m e =>
    if d.conversion.toLower = 'a' then
      d.padNumber true (d.sign x.negative ++ d.raise ['0', 'x']) (d.raise (d.hexadecimal f m e))
    else
      let (num, den) := Binary.quotient m e
      d.fraction x.negative num den

end Directive

end ShellPipeline
