import ShellPipeline.Number.Digits
import ShellPipeline.Text.Locale

/-!
# Backslash escapes

Tools that write text read escapes in it: a letter for a control character, octal and hexadecimal
numbers for other characters, and a letter that stops all output.
-/

namespace ShellPipeline

/-- What an escape stands for. -/
inductive Escape where
  | text (cs : List Char)
  | stop
  | fault (message : String)
deriving DecidableEq, Repr

namespace Escape

def letters : List (Char × Char) :=
  [('a', '\x07'), ('b', '\x08'), ('e', '\x1b'), ('f', '\x0c'), ('n', '\n'), ('r', '\r'),
    ('t', '\t'), ('v', '\x0b'), ('\\', '\\')]

/-- The character that a number stands for, of which the lowest eight bits count. -/
def charOf (n : Nat) : Char :=
  Char.ofNat (n % 256)

def readEcho (cs : List Char) : Escape × List Char :=
  match cs with
  | [] => (.text ['\\'], [])
  | 'c' :: rest => (.stop, rest)
  | 'x' :: rest =>
    match takeNumber 16 2 rest with
    | (_, 0, _) => (.text ['\\', 'x'], rest)
    | (n, _, rest) => (.text [charOf n], rest)
  | '0' :: rest =>
    let (n, _, rest) := takeNumber 8 3 rest
    (.text [charOf n], rest)
  | c :: rest =>
    if isOctalDigit c then
      let (n, _, rest) := takeNumber 8 3 (c :: rest)
      (.text [charOf n], rest)
    else match letters.lookup c with
      | some d => (.text [d], rest)
      | none => (.text ['\\', c], rest)

/-- Reads a text of at most so many characters, after what was read of it in reverse. Answers also
whether output stops. -/
def expandEcho : Nat → List Char → List Char → List Char × Bool
  | 0, done, _ => (done.reverse, false)
  | _, done, [] => (done.reverse, false)
  | n + 1, done, '\\' :: rest =>
    match readEcho rest with
    | (.text cs, rest) => expandEcho n (cs.reverse ++ done) rest
    | _ => (done.reverse, true)
  | n + 1, done, c :: rest => expandEcho n (c :: done) rest

/-- The text that stands for a character outside of ASCII. -/
def beyondAscii (n : Nat) : List Char :=
  let digits := (digitsIn 16 n).map Char.toUpper
  if n < 0x10000 then ['\\', 'u'] ++ List.replicate (4 - digits.length) '0' ++ digits
  else ['\\', 'U'] ++ List.replicate (8 - digits.length) '0' ++ digits

def isHalf (n : Nat) : Bool :=
  0xd800 ≤ n && n ≤ 0xdfff

/-- Reads a number of a character with so many digits. -/
def readNumbered (letter : Char) (size : Nat) (cs : List Char) : Escape × List Char :=
  let (n, count, rest) := takeNumber 16 size cs
  if count < size then (.fault "missing hexadecimal number in escape", rest)
  else if isHalf n then
    let digits := digitsIn 16 n
    (.fault ("invalid universal character name \\" ++ String.ofList
      (letter :: List.replicate (size - digits.length) '0' ++ digits)), rest)
  else if n < 128 then (.text [charOf n], rest)
  else (.text (beyondAscii n), rest)

/-- Reads what follows a backslash as `printf` does, perhaps with a zero before octal numbers. -/
def readFormat (zero : Bool) (cs : List Char) : Escape × List Char :=
  match cs with
  | [] => (.text ['\\'], [])
  | 'c' :: rest => (.stop, rest)
  | '"' :: rest => (.text ['"'], rest)
  | 'x' :: rest =>
    match takeNumber 16 2 rest with
    | (_, 0, _) => (.fault "missing hexadecimal number in escape", rest)
    | (n, _, rest) => (.text [charOf n], rest)
  | 'u' :: rest => readNumbered 'u' 4 rest
  | 'U' :: rest => readNumbered 'U' 8 rest
  | c :: rest =>
    if isOctalDigit c then
      let (n, _, rest) := takeNumber 8 3 (if zero && c = '0' then rest else c :: rest)
      (.text [charOf n], rest)
    else match letters.lookup c with
      | some d => (.text [d], rest)
      | none => (.text ['\\', c], rest)

end Escape

end ShellPipeline
