import ShellPipeline.Text.Class

/-!
# Regular expressions

A regular expression says which texts match. Its parts take one character out of a set, hold a place
that takes none, or take again what a group took; and they follow each other, stand for a choice, or
are repeated. What stands first in a choice is preferred, and so is one more repetition.
-/

namespace ShellPipeline

/-- A set of characters. -/
structure CharSet where
  /-- Whether each character belongs to it, by their numbers. -/
  members : Array Bool
deriving DecidableEq, Repr

namespace CharSet

def ofProperty (holds : Char → Bool) : CharSet :=
  ⟨((List.range 256).map fun i => holds (Char.ofNat i)).toArray⟩

def contains (s : CharSet) (c : Char) : Bool :=
  s.members.getD c.toNat false

end CharSet

/-- A place in a text that takes no character. -/
inductive Anchor where
  /-- The beginning of the text, or of a line in it. -/
  | lineStart
  /-- The end of the text, or of a line in it. -/
  | lineEnd
  | textStart
  | textEnd
  | wordStart
  | wordEnd
  /-- The beginning or the end of a word. -/
  | wordEdge
  | noWordEdge
deriving DecidableEq, Repr

/-- A regular expression. -/
inductive Regex where
  | empty
  /-- Takes a character out of a set. -/
  | one (s : CharSet)
  | place (a : Anchor)
  | again (group : Nat)
  /-- A group with its number. It may be optional as a whole. -/
  | group (number : Nat) (optional : Bool) (r : Regex)
  | seq (first second : Regex)
  | either (first second : Regex)
  | perhaps (r : Regex)
  | many (r : Regex)
deriving Repr

namespace Regex

/-- An expression that takes nothing if another one takes nothing at all. -/
def isEmpty : Regex → Bool
  | empty => true
  | _ => false

def andThen : Regex → Regex → Regex
  | empty, r => r
  | r, empty => r
  | r, s => seq r s

/-- One or the other. To take nothing is never preferred. -/
def orElse : Regex → Regex → Regex
  | empty, r => perhaps r
  | r, empty => perhaps r
  | r, s => either r s

def asOptional : Regex → Regex
  | group n _ r => group n true r
  | r => r

/-- An expression of which no group is said to be missing. -/
def asRequired : Regex → Regex
  | group n _ r => group n false r.asRequired
  | seq r s => seq r.asRequired s.asRequired
  | either r s => either r.asRequired s.asRequired
  | perhaps r => perhaps r.asRequired
  | many r => many r.asRequired
  | r => r

def withCopies (first copy : Regex) : Nat → Regex
  | 0 => first
  | n + 1 => andThen (withCopies first copy n) copy

/-- An expression, perhaps followed by copies of another one, and all of it perhaps missing. -/
def withMore (first copy : Regex) : Nat → Regex
  | 0 => perhaps first
  | n + 1 => perhaps (andThen (withMore first copy n) copy)

/-- An expression at least so many times, and at most so many if that is limited. Only in the
first of several copies groups can be missing. -/
def repeated (r : Regex) (least : Nat) (most : Option Nat) : Regex :=
  if r.isEmpty then empty
  else
    let copy := r.asRequired
    let rest := (if least = 0 then r else copy).asOptional
    let more := match most with
      | none => many rest
      | some most =>
        match most - least with
        | 0 => empty
        | extra + 1 => withMore rest copy extra
    match least with
    | 0 => more
    | n + 1 => andThen (withCopies r copy n) more

def looksBack : Regex → Bool
  | again _ => true
  | group _ _ r | perhaps r | many r => r.looksBack
  | seq r s | either r s => r.looksBack || s.looksBack
  | empty | one _ | place _ => false

end Regex

end ShellPipeline
