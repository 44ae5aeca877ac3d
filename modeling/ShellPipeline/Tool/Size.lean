import ShellPipeline.Number.Digits
import ShellPipeline.Tool.Basic
import ShellPipeline.Tool.Quote

/-!
# Sizes

A size is a number that may be followed by a unit: a letter for a power of 1024, which becomes a
power of 1000 by one more letter.
-/

namespace ShellPipeline

namespace Size

def maximum : Nat := 18446744073709551615

/-- Why a text is no size. -/
inductive Fault where
  /-- It is no number with a unit. -/
  | invalid
  | tooLarge
deriving DecidableEq, Repr

def powers : List (Char × Nat) :=
  [('k', 1), ('K', 1), ('m', 2), ('M', 2), ('G', 3), ('g', 3), ('T', 4), ('t', 4), ('P', 5),
    ('E', 6), ('Z', 7), ('Y', 8), ('R', 9), ('Q', 10)]

def factors : List (Char × Nat) :=
  [('b', 512), ('c', 1), ('w', 2), ('B', 1024)]

/-- The factor of a unit, if it is among the known letters. -/
def unit? (known : List Char) : List Char → Option Nat
  | [] => some 1
  | c :: rest =>
    if !known.contains c then none
    else match powers.lookup c, factors.lookup c, rest with
      | some n, _, [] => some (power 1024 n)
      | some n, _, ['i', 'B'] => some (power 1024 n)
      | some n, _, ['B'] => some (power 1000 n)
      | some n, _, ['D'] => some (power 1000 n)
      | none, some f, [] => some f
      | _, _, _ => none

def isSpace (c : Char) : Bool :=
  c = ' ' || ('\t' ≤ c && c ≤ '\r')

def read (known : List Char) (s : String) : Except Fault Nat :=
  let cs := s.toList.dropWhile isSpace
  let cs := match cs with
    | '+' :: rest => rest
    | _ => cs
  let digits := cs.takeWhile Char.isDigit
  let rest := cs.drop digits.length
  let number := if digits.isEmpty && !rest.isEmpty then some 1 else readDecimal? digits
  match number, unit? known rest with
  | some n, some factor => if maximum < n * factor then .error .tooLarge else .ok (n * factor)
  | _, _ => .error .invalid

def usualUnits : List Char :=
  "bkKmMGTPEZYRQ".toList

end Size

namespace Job

def readSize (known : List Char) (what value : String) : Job Nat := do
  match Size.read known value with
  | .ok n => return n
  | .error .invalid => fail ("invalid " ++ what ++ ": " ++ Quote.value value)
  | .error .tooLarge =>
    fail ("invalid " ++ what ++ ": " ++ Quote.value value
      ++ ": Value too large for defined data type")

end Job

end ShellPipeline
