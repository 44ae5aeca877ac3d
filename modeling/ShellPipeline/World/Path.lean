/-!
# Paths

A path is a sequence of names, read from the root directory if it begins with a slash and from
another directory otherwise. A slash after the last name asks for a directory.
-/

namespace ShellPipeline

/-- A path, taken apart at its slashes. -/
structure Path where
  /-- Whether it begins at the root directory. -/
  absolute : Bool
  names : List String
  /-- Whether a slash follows the last name. -/
  closed : Bool
deriving DecidableEq, Repr

def Path.maxNameSize : Nat := 255

def Path.maxSize : Nat := 4095

/-- The number of symbolic links that one path may go through. -/
def Path.maxLinks : Nat := 40

def Path.pieces : List Char → List (List Char)
  | [] => [[]]
  | c :: cs =>
    if c = '/' then [] :: pieces cs
    else match pieces cs with
      | [] => [[c]]
      | piece :: rest => (c :: piece) :: rest

def Path.ofString (s : String) : Path where
  absolute := s.toList.head? = some '/'
  names := ((Path.pieces s.toList).filter (· ≠ [])).map String.ofList
  closed := s.toList.getLast? = some '/'

end ShellPipeline
