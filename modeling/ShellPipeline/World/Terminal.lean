import ShellPipeline.Text.Utf8

/-!
# Terminals

What is typed on a terminal is edited by lines before anybody reads it. Some control characters
take back a byte, a word or the line, one makes the next character literal, and one ends the
input: after part of a line it only gives that part away. A return counts as the end of a line.
-/

namespace ShellPipeline

namespace Terminal

/-- The most bytes that a line can have before its end. -/
def maxLine : Nat := 4095

/-- Takes back the last byte. The bytes of a line stand in reverse. -/
def eraseByte (line : Bytes) : Bytes :=
  line.drop 1

def isWordByte (b : UInt8) : Bool :=
  (48 ≤ b && b ≤ 57) || (65 ≤ b && b ≤ 90) || (97 ≤ b && b ≤ 122) || b = 95

def eraseWord (line : Bytes) : Bytes :=
  (line.dropWhile (!isWordByte ·)).dropWhile isWordByte

/-- Adds a byte, which takes the place of the last one in a line that is full. -/
def addByte (line : Bytes) (b : UInt8) : Bytes :=
  if maxLine < line.length then b :: line.drop 1 else b :: line

def endLine (line : Bytes) : Bytes :=
  (addByte line 10).reverse

/-- What was typed so far. -/
structure Typing where
  /-- What can be read, the newest first. Nothing to be read is an end of the input. -/
  ready : List Bytes := []
  /-- The line that has no end yet, in reverse. -/
  line : Bytes := []
  literal : Bool := false

def Typing.type (t : Typing) (b : UInt8) : Typing :=
  if t.literal then { t with line := addByte t.line b, literal := false }
  else match b with
    | 22 => { t with literal := true }
    | 127 => { t with line := eraseByte t.line }
    | 23 => { t with line := eraseWord t.line }
    | 21 => { t with line := [] }
    | 4 => { t with ready := t.line.reverse :: t.ready, line := [] }
    | 10 => { t with ready := endLine t.line :: t.ready, line := [] }
    | 13 => { t with ready := endLine t.line :: t.ready, line := [] }
    | 3 => {}
    | 26 => {}
    | 28 => {}
    | 17 => t
    | 19 => t
    | _ => { t with line := addByte t.line b }

/-- What can be read after bytes were typed, piece by piece. An empty piece is an end of the
input. -/
def pieces (bytes : Bytes) : List Bytes :=
  (bytes.foldl Typing.type {}).ready.reverse

/-- Reads at most so many bytes of what was typed, all of them from the same line. -/
def read (pieces : List Bytes) (count : Nat) : Bytes × List Bytes :=
  match pieces with
  | [] => ([], [])
  | piece :: rest =>
    let left := piece.drop count
    (piece.take count, if left.isEmpty then rest else left :: rest)

end Terminal

end ShellPipeline
