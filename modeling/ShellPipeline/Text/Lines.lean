import ShellPipeline.Text.Utf8

/-!
# Lines of bytes

A line ends with a line feed, which belongs to it. What follows the last line feed is a line
without one, unless there is nothing.
-/

namespace ShellPipeline

def lineFeed : UInt8 := 10

/-- The bytes up to and including the first line feed, and those after it. -/
def splitLine? (bytes : Bytes) : Option (Bytes × Bytes) :=
  match bytes.span (· ≠ lineFeed) with
  | (_, []) => none
  | (line, b :: rest) => some (line ++ [b], rest)

/-- Adds a byte to lines, of which the last stands first and every one is in reverse. -/
def pushByte (lines : List Bytes) (b : UInt8) : List Bytes :=
  match lines with
  | (x :: l) :: rest => if x = lineFeed then [b] :: (x :: l) :: rest else (b :: x :: l) :: rest
  | _ => [b] :: lines

def linesOf (bytes : Bytes) : List Bytes :=
  ((bytes.foldl pushByte []).map List.reverse).reverse

end ShellPipeline
