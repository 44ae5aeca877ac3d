/-!
# Decimal numerals

Writing natural numbers and integers in decimal, and reading them back. A signed numeral may carry
one sign and any number of leading zeros.
-/

namespace ShellPipeline

def digitChar (n : Nat) : Char :=
  Char.ofNat ('0'.toNat + n)

/-- The decimal digits of a number, the most significant first. -/
def decimalDigits (n : Nat) : List Char :=
  if n < 10 then [digitChar n] else decimalDigits (n / 10) ++ [digitChar (n % 10)]

def decimal (n : Nat) : String :=
  String.ofList (decimalDigits n)

def decimalInt (i : Int) : String :=
  if i < 0 then "-" ++ decimal i.natAbs else decimal i.natAbs

def digitValue (c : Char) : Nat :=
  c.toNat - '0'.toNat

/-- The number that a text of ASCII digits denotes. The empty text denotes none. -/
def readDecimal? (l : List Char) : Option Nat :=
  if l ≠ [] ∧ l.all Char.isDigit then some (l.foldl (fun n c => 10 * n + digitValue c) 0) else none

/-- The integer that a numeral with an optional sign denotes. -/
def readSigned? : List Char → Option Int
  | '-' :: l => (readDecimal? l).map fun n => -(n : Int)
  | '+' :: l => (readDecimal? l).map fun n => (n : Int)
  | l => (readDecimal? l).map fun n => (n : Int)

end ShellPipeline
