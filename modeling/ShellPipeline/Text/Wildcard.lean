import ShellPipeline.Text.Class
import ShellPipeline.Text.Locale

/-!
# Patterns of names

In a pattern a star stands for any text, a question mark for any character, and characters between
brackets for one of them. A character that is quoted stands for itself. A pattern for paths is
matched name by name.
-/

namespace ShellPipeline

/-- A character of a pattern, and whether it is quoted. -/
structure PatternChar where
  char : Char
  quoted : Bool := false
deriving DecidableEq, Repr

abbrev Pattern := List PatternChar

namespace Pattern

/-- Whether a character is a certain one that is not quoted. -/
def isActive (p : PatternChar) (c : Char) : Bool :=
  !p.quoted && p.char = c

/-- The pattern of a text in which nothing is quoted. -/
def ofChars (cs : List Char) : Pattern :=
  cs.map fun c => { char := c }

def text (p : Pattern) : String :=
  String.ofList (p.map PatternChar.char)

/-- The class whose name follows an opening bracket, and what comes after it. -/
def class? (p : Pattern) : Option ((Char → Bool) × Pattern) :=
  charClasses.findSome? fun (name, holds) =>
    let written := ofChars (":" ++ name ++ ":]").toList
    if written.isPrefixOf p then some (holds, p.drop written.length) else none

/-- The place of a character in the order of ranges. -/
def rank (c : Char) : Nat :=
  (c.toNat + 128) % 256

/-- Reads the characters between brackets, of which there are at most so many. -/
def readBracket : Nat → (Char → Bool) → Pattern → Option ((Char → Bool) × Pattern)
  | 0, _, _ => none
  | _, _, [] => none
  | n + 1, holds, c :: rest =>
    let goOn (also : Char → Bool) (rest : Pattern) : Option ((Char → Bool) × Pattern) :=
      let holds (d : Char) : Bool := holds d || also d
      match rest with
      | e :: after => if isActive e ']' then some (holds, after) else readBracket n holds rest
      | [] => none
    match if isActive c '[' then class? rest else none with
    | some (also, rest) => goOn also rest
    | none =>
      match rest with
      | dash :: last :: after =>
        if isActive dash '-' && !isActive last ']' then
          goOn (fun d => rank c.char ≤ rank d && rank d ≤ rank last.char) after
        else goOn (· = c.char) rest
      | rest => goOn (· = c.char) rest

/-- The characters between brackets after the opening one, and what comes after them. -/
def bracket? (p : Pattern) : Option ((Char → Bool) × Pattern) :=
  match p with
  | c :: rest =>
    if isActive c '!' then
      (readBracket (p.length + 1) (fun _ => false) rest).map fun (holds, after) =>
        (fun d => !holds d, after)
    else readBracket (p.length + 1) (fun _ => false) p
  | [] => none

/-- Whether a pattern matches a text. The number bounds how much of both is looked at. -/
def matchesFor : Nat → Pattern → List Char → Bool
  | 0, _, _ => false
  | _, [], cs => cs.isEmpty
  | n + 1, p :: rest, cs =>
    if isActive p '*' then
      matchesFor n rest cs || match cs with
        | [] => false
        | _ :: more => matchesFor n (p :: rest) more
    else match cs with
      | [] => false
      | c :: more =>
        if isActive p '?' then matchesFor n rest more
        else match if isActive p '[' then bracket? rest else none with
          | some (holds, after) => holds c && matchesFor n after more
          | none => p.char = c && matchesFor n rest more

def isMatch (p : Pattern) (cs : List Char) : Bool :=
  matchesFor (p.length + cs.length + 1) p cs

def hasBracket : Pattern → Bool
  | [] => false
  | p =>
    let rest := match p with
      | c :: more => if isActive c '!' then more else p
      | [] => []
    (rest.drop 1).any (isActive · ']')

/-- Whether a pattern can match other texts than its own. -/
def isWild : Pattern → Bool
  | [] => false
  | p :: rest =>
    isActive p '*' || isActive p '?' || (isActive p '[' && hasBracket rest) || isWild rest

/-- The patterns of the names in a pattern of a path. -/
def components : Pattern → List Pattern
  | [] => [[]]
  | c :: rest =>
    match components rest with
    | [] => [[c]]
    | first :: more => if c.char = '/' then [] :: first :: more else (c :: first) :: more

end Pattern

end ShellPipeline
