/-!
# Text and bytes

The UTF-8 form of a text, and reading bytes as text. Bytes that are not UTF-8 are read with
replacement: every longest piece that could have begun a character becomes U+FFFD.
-/

namespace ShellPipeline

abbrev Bytes := List UInt8

def utf8 (s : String) : Bytes :=
  s.toList.flatMap String.utf8EncodeChar

def hasNul (s : String) : Bool :=
  s.toList.any (· = '\x00')

/-- The character that stands for bytes that are no text. -/
def replacementChar : Char := '\uFFFD'

def byteBetween (lo hi b : UInt8) : Bool :=
  lo ≤ b && b ≤ hi

/-- Joins the payload of a continuation byte to the bits read so far. -/
def joinBits (n : Nat) (b : UInt8) : Nat :=
  n * 64 + b.toNat % 64

/-- The bounds of the byte that may follow a leading byte, and the number of bytes that follow it
altogether. -/
def continuation? (b : UInt8) : Option (UInt8 × UInt8 × Nat) :=
  if byteBetween 0xC2 0xDF b then some (0x80, 0xBF, 1)
  else if b = 0xE0 then some (0xA0, 0xBF, 2)
  else if b = 0xED then some (0x80, 0x9F, 2)
  else if byteBetween 0xE1 0xEF b then some (0x80, 0xBF, 2)
  else if b = 0xF0 then some (0x90, 0xBF, 3)
  else if byteBetween 0xF1 0xF3 b then some (0x80, 0xBF, 3)
  else if b = 0xF4 then some (0x80, 0x8F, 3)
  else none

/-- Reads `need` continuation bytes of which the first lies between `lo` and `hi`. Answers the
character and how many bytes it took; a broken sequence takes the bytes that fitted. -/
def readContinuation (lo hi : UInt8) (bits taken : Nat) : Nat → Bytes → Char × Nat
  | 0, _ => (Char.ofNat bits, taken)
  | need + 1, b :: rest =>
    if byteBetween lo hi b then readContinuation 0x80 0xBF (joinBits bits b) (taken + 1) need rest
    else (replacementChar, taken)
  | _ + 1, [] => (replacementChar, taken)

/-- The payload of a leading byte that announces `need` further bytes. -/
def leadingBits (b : UInt8) (need : Nat) : Nat :=
  b.toNat % 1 <<< (6 - need)

/-- The first character of a nonempty sequence of bytes, and how many bytes after the first it
took. -/
def firstChar (b : UInt8) (rest : Bytes) : Char × Nat :=
  if b < 0x80 then (Char.ofNat b.toNat, 0)
  else match continuation? b with
    | none => (replacementChar, 0)
    | some (lo, hi, need) => readContinuation lo hi (leadingBits b need) 0 need rest

def decodeText (bytes : Bytes) : String :=
  go "" bytes
where
  /-- Reads the remaining bytes after the text read so far. -/
  go (done : String) : Bytes → String
    | [] => done
    | b :: rest =>
      let (c, taken) := firstChar b rest
      go (done.push c) (rest.drop taken)
  termination_by l => l.length
  decreasing_by exact Nat.lt_succ_of_le (List.length_drop ▸ Nat.sub_le ..)

end ShellPipeline
