import ShellPipeline.Text.Numeral

/-!
# Digits

Reading and writing natural numbers in any base up to sixteen, powers, and quotients that are
rounded to the nearest number.
-/

namespace ShellPipeline

def power (base : Nat) : Nat → Nat
  | 0 => 1
  | n + 1 => base * power base n

def isOctalDigit (c : Char) : Bool :=
  '0' ≤ c && c ≤ '7'

def isHexDigit (c : Char) : Bool :=
  c.isDigit || ('a' ≤ c && c ≤ 'f') || ('A' ≤ c && c ≤ 'F')

def hexDigitValue (c : Char) : Nat :=
  if c.isDigit then c.toNat - 48 else c.toLower.toNat - 87

def isDigitOf (base : Nat) (c : Char) : Bool :=
  isHexDigit c && hexDigitValue c < base

def numberOf (base : Nat) (digits : List Char) : Nat :=
  digits.foldl (fun n c => n * base + hexDigitValue c) 0

/-- The number of at most so many digits that begin a text, how many there are, and the rest. -/
def takeNumber (base most : Nat) (cs : List Char) : Nat × Nat × List Char :=
  let digits := (cs.take most).takeWhile (isDigitOf base)
  (numberOf base digits, digits.length, cs.drop digits.length)

def hexDigitChar (n : Nat) : Char :=
  if n < 10 then digitChar n else Char.ofNat (87 + n)

/-- The digits of a number in a base, in front of others. -/
def digitsFor (base : Nat) : Nat → Nat → List Char → List Char
  | 0, _, done => done
  | fuel + 1, n, done =>
    let done := hexDigitChar (n % base) :: done
    if n < base then done else digitsFor base fuel (n / base) done

def digitsIn (base n : Nat) : List Char :=
  digitsFor base (n.log2 + 1) n []

/-- A quotient, rounded to the nearest number, or to the even one of two that are equally near. -/
def roundedQuotient (a b : Nat) : Nat :=
  let q := a / b
  let twice := 2 * (a % b)
  if b < twice || (b = twice && q % 2 = 1) then q + 1 else q

end ShellPipeline
