import ShellPipeline.Number.Digits
import ShellPipeline.Text.Locale

/-!
# Escapes in editing scripts

In a script, a letter after a backslash stands for a control character, and numbers stand for any
characters. What other escapes mean depends on where they stand.
-/

namespace ShellPipeline

/-- Where an escape stands in an editing script. -/
inductive EscapePlace where
  | pattern
  /-- In what a match is replaced with. -/
  | replacement
  /-- Among characters that are replaced one by one. -/
  | characters
  /-- In a text that is put out. -/
  | text
deriving DecidableEq, Repr

namespace EscapePlace

def letters : List (Char × Char) :=
  [('a', '\x07'), ('f', '\x0c'), ('n', '\n'), ('r', '\r'), ('t', '\t'), ('v', '\x0b')]

/-- The bases of numbers with the letters before them, and the largest numbers of digits. -/
def bases : List (Char × Nat × Nat) :=
  [('d', 10, 3), ('o', 8, 3), ('x', 16, 2)]

def control (c : Char) : Char :=
  Char.ofNat (c.toUpper.toNat ^^^ 0x40)

/-- A character that a number stands for. It has no further meaning in a replacement. -/
def numbered (place : EscapePlace) (c : Char) : List Char :=
  if place = .replacement && (c = '&' || c = '\\') then ['\\', c] else [c]

def unknown (place : EscapePlace) (c : Char) : List Char :=
  if place = .text then [c] else ['\\', c]

/-- Reads a text of at most so many characters, after what was read of it in reverse. Answers
nothing if a control character is made of an escape. -/
def readFor (place : EscapePlace) : Nat → List Char → List Char → Option (List Char)
  | 0, done, _ => some done.reverse
  | _, done, [] => some done.reverse
  | _, done, ['\\'] => some ('\\' :: done).reverse
  | n + 1, done, '\\' :: c :: rest =>
    if c = 'c' then
      match rest with
      | [] => readFor place n ('\\' :: done) []
      | '\\' :: '\\' :: rest => readFor place n (control '\\' :: done) rest
      | '\\' :: _ => none
      | d :: rest => readFor place n (control d :: done) rest
    else match letters.lookup c, bases.lookup c with
      | some d, _ => readFor place n (d :: done) rest
      | none, some (base, most) =>
        match takeNumber base most rest with
        | (_, 0, _) => readFor place n (c :: done) rest
        | (number, _, rest) =>
          let cs := numbered place (Char.ofNat (number % 256))
          readFor place n (cs.reverse ++ done) rest
      | none, none => readFor place n ((unknown place c).reverse ++ done) rest
  | n + 1, done, c :: rest => readFor place n (c :: done) rest

/-- Reads the escapes in a text. Answers nothing if a control character is made of an escape. -/
def read? (place : EscapePlace) (cs : List Char) : Option (List Char) :=
  readFor place (cs.length + 1) [] cs

end EscapePlace

end ShellPipeline
