import ShellPipeline.Number.Directive
import ShellPipeline.Script.Utility

/-!
# Output

`echo` writes its words and `printf` writes them as a format says. Both read backslash escapes.
-/

namespace ShellPipeline

namespace Script

namespace Escape

def letters : List (Char × Char) :=
  [('\\', '\\'), ('a', '\x07'), ('b', '\x08'), ('f', '\x0c'), ('n', '\n'), ('r', '\r'),
    ('t', '\t'), ('v', '\x0b')]

def read (cs : List Char) : Char × List Char :=
  match cs with
  | [] => ('\\', [])
  | c :: rest =>
    if isOctalDigit c then
      let (n, _, rest) := takeNumber 8 3 cs
      (Char.ofNat (n % 256), rest)
    else match letters.lookup c with
      | some d => (d, rest)
      | none => ('\\', cs)

/-- Reads a text of at most so many characters after what was read of it in reverse. Answers also
whether all output stops. -/
def expandFor : Nat → List Char → List Char → List Char × Bool
  | 0, done, _ => (done.reverse, false)
  | _, done, [] => (done.reverse, false)
  | n + 1, done, '\\' :: rest =>
    match rest with
    | 'c' :: _ => (done.reverse, true)
    | '0' :: d :: more =>
      let (c, rest) := if isOctalDigit d then read (d :: more) else read rest
      expandFor n (c :: done) rest
    | rest =>
      let (c, rest) := read rest
      expandFor n (c :: done) rest
  | n + 1, done, c :: rest => expandFor n (c :: done) rest

/-- Reads the escapes in a text. Answers also whether all output stops. -/
def expand (cs : List Char) : List Char × Bool :=
  expandFor (cs.length + 1) [] cs

end Escape

/-- The text of words with escapes, and whether a line ends after them. -/
def echoText : List String → List Char × Bool
  | [] => ([], true)
  | word :: rest =>
    let (cs, stops) := Escape.expand word.toList
    if stops then (cs, false)
    else if rest.isEmpty then (cs, true)
    else
      let (more, ends) := echoText rest
      (cs ++ ' ' :: more, ends)

/-- What `printf` still has to write. -/
structure Printing where
  words : List String
  status : Nat := 0
  stops : Bool := false

namespace Printing

def take (p : Printing) : Option String × Printing :=
  (p.words.head?, { p with words := p.words.drop 1 })

def complain (p : Printing) (message : String) : Act Printing := do
  Act.warn message
  return { p with status := 1 }

/-- Complains if a word is not read as a whole. -/
def check (p : Printing) (word : String) (rest : List Char) (isOut : Bool) : Act Printing := do
  if !rest.isEmpty then
    if rest.length = word.length then p.complain (word ++ ": expected numeric value")
    else p.complain (word ++ ": not completely converted")
  else if isOut then p.complain (word ++ ": " ++ (Errno.mk 34).wording)
  else return p

/-- The number of the character that a word names, if it names one. -/
def character? (word : String) : Option Nat :=
  match word.toList with
  | c :: rest =>
    if c = '\'' || c = '"' then some (rest.head?.elim 0 Char.toNat) else none
  | [] => none

/-- Reads an integer in the base that it shows, and the rest. -/
def readInteger (cs : List Char) : Int × List Char :=
  let blanks := cs.dropWhile isBlank
  let (negative, digits) := match blanks with
    | '-' :: rest => (true, rest)
    | '+' :: rest => (false, rest)
    | rest => (false, rest)
  let size := digits.length
  let (n, count, rest) := match digits with
    | '0' :: x :: d :: _ =>
      if (x = 'x' || x = 'X') && isHexDigit d then takeNumber 16 size (digits.drop 2)
      else if (x = 'b' || x = 'B') && isDigitOf 2 d then takeNumber 2 size (digits.drop 2)
      else takeNumber 8 size digits
    | '0' :: _ => takeNumber 8 size digits
    | _ => takeNumber 10 size digits
  if count = 0 then (0, cs) else (if negative then -(n : Int) else n, rest)

/-- The largest number of 64 bits with a sign. -/
def maxSigned : Int := 9223372036854775807

/-- The largest number of 64 bits without a sign. -/
def maxUnsigned : Int := 18446744073709551615

/-- The integer that the next word is, with or without a sign. -/
def integer (p : Printing) (isSigned : Bool) : Act (Int × Printing) := do
  match p.take with
  | (none, p) => return (0, p)
  | (some word, p) =>
    match character? word with
    | some n => return (n, p)
    | none =>
      let (i, rest) := readInteger word.toList
      let (least, most) := if isSigned then (-maxSigned - 1, maxSigned)
        else (-maxUnsigned, maxUnsigned)
      let isOut := i < least || most < i
      let i := if !isOut then i else if isSigned && i < 0 then least else most
      return (i, ← p.check word rest isOut)

/-- The number with a point that the next word is. -/
def binary (p : Printing) : Act (Binary × Printing) := do
  match p.take with
  | (none, p) => return (⟨false, .finite 0 0⟩, p)
  | (some word, p) =>
    match character? word with
    | some n => return (⟨false, (Binary.ofQuotient .double n 1).1⟩, p)
    | none =>
      match Binary.read .double word.toList with
      | none => return (⟨false, .finite 0 0⟩, ← p.check word word.toList false)
      | some (x, isOut, rest) => return (x, ← p.check word rest isOut)

/-- Reads a width or a precision, which may be the next word. -/
def measure (p : Printing) (cs : List Char) : Act (Option Int × List Char × Printing) := do
  match cs with
  | '*' :: rest =>
    let (i, p) ← p.integer true
    return (some ((i + 2147483648) % 4294967296 - 2147483648), rest, p)
  | cs =>
    match takeNumber 10 cs.length cs with
    | (_, 0, _) => return (none, cs, p)
    | (n, _, rest) => return (some n, rest, p)

def write (p : Printing) (d : Directive) (source : List Char) : Act Printing := do
  let put (cs : List Char) : Act Unit := Act.put (bytesOfChars cs)
  match d.conversion with
  | 'b' =>
    let (word, p) := p.take
    let (cs, stops) := Escape.expand (word.getD "").toList
    put (d.text cs)
    return { p with stops }
  | 'c' =>
    let (word, p) := p.take
    put (d.pad [(word.getD "").toList.headD '\x00'])
    return p
  | 's' =>
    let (word, p) := p.take
    put (d.text (word.getD "").toList)
    return p
  | 'd' | 'i' =>
    let (i, p) ← p.integer true
    put (d.integer ((i + maxSigned + 1) % (maxUnsigned + 1) - maxSigned - 1))
    return p
  | 'o' | 'u' | 'x' | 'X' =>
    let (i, p) ← p.integer false
    put (d.natural (i % (maxUnsigned + 1)).toNat)
    return p
  | c =>
    if ['a', 'A', 'e', 'E', 'f', 'F', 'g', 'G'].contains c then
      let (x, p) ← p.binary
      put (d.binary .double x)
      return p
    Act.fail (String.ofList source ++ ": invalid directive")

/-- Reads a directive after its percent sign and writes what it says. -/
def direct (p : Printing) (cs : List Char) : Act (List Char × Printing) := do
  let flags := cs.takeWhile fun c => ['#', '-', '+', ' ', '0'].contains c
  let (width, after, p) ← p.measure (cs.drop flags.length)
  let (precision, after, p) ← match after with
    | '.' :: rest => do
      let (i, rest, p) ← p.measure rest
      pure (some (i.getD 0), rest, p)
    | after => pure (none, after, p)
  match after with
  | [] => Act.fail "missing format character"
  | conversion :: rest =>
    let width := width.getD 0
    let flags := if width < 0 then '-' :: flags else flags
    let precision := precision.bind fun i => if i < 0 then none else some i.toNat
    let d : Directive := { flags, width := width.natAbs, precision, conversion }
    let p ← p.write d ('%' :: cs.take (cs.length - rest.length))
    return (rest, p)

def formatFor : Nat → List Char → Printing → Act Printing
  | 0, _, p => pure p
  | _, [], p => pure p
  | n + 1, '%' :: '%' :: rest, p => do
    Act.print "%"
    formatFor n rest p
  | n + 1, '%' :: rest, p => do
    let (rest, p) ← p.direct rest
    if p.stops then return p
    formatFor n rest p
  | n + 1, '\\' :: rest, p => do
    let (c, rest) := Escape.read rest
    Act.put [byteOfChar c]
    formatFor n rest p
  | n + 1, cs, p => do
    let plain := cs.takeWhile fun c => c != '%' && c != '\\'
    Act.put (bytesOfChars plain)
    formatFor n (cs.drop plain.length) p

/-- Writes a format as often as there are words that it takes, at most so many times. -/
def repeatFor (format : List Char) : Nat → Printing → Act Printing
  | 0, p => pure p
  | n + 1, p => do
    let next ← formatFor (format.length + 1) format p
    if next.stops || next.words.isEmpty || next.words.length = p.words.length then return next
    repeatFor format n next

end Printing

namespace Utility

def echo : Utility :=
  .ofWords fun words => do
    let silent := words.head? = some "-n"
    let (cs, ends) := echoText (if silent then words.drop 1 else words)
    Act.put (bytesOfChars (if ends && !silent then cs ++ ['\n'] else cs))
    return 0

def printf : Utility :=
  .ofWords fun words => do
    match ← Act.noOptions words with
    | [] => Act.fail "usage: printf format [arg ...]"
    | format :: words =>
      let p ← Printing.repeatFor format.toList (words.length + 1) { words }
      return p.status

end Utility

end Script

end ShellPipeline
