import ShellPipeline.Text.Numeral

/-!
# The history

The history holds the lines that were entered, oldest first. It is shown with the number of each
line, which takes at least five columns.
-/

namespace ShellPipeline

/-- The lines that were entered. -/
structure History where
  lines : Array String := #[]
deriving DecidableEq, Repr

namespace History

def push (h : History) (line : String) : History :=
  ⟨h.lines.push line⟩

/-- The columns that a number takes at least. -/
def numberWidth : Nat := 5

/-- The shown form of a number, with spaces before it. -/
def renderNumber (number : Nat) : List Char :=
  let digits := decimalDigits number
  List.replicate (numberWidth - digits.length) ' ' ++ digits

def renderLine (number : Nat) (line : String) : List Char :=
  renderNumber number ++ [' ', ' '] ++ line.toList ++ ['\n']

/-- The shown form of lines, of which the first has a number. -/
def renderFrom (number : Nat) : List String → List Char
  | [] => []
  | line :: rest => renderLine number line ++ renderFrom (number + 1) rest

def render (h : History) : String :=
  String.ofList (renderFrom 1 h.lines.toList)

end History

end ShellPipeline
