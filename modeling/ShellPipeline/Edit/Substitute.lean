import ShellPipeline.Edit.Script

/-!
# Replacing matches

The matches in a line are counted from its beginning. An empty one that begins where another one has
ended does not count.
-/

namespace ShellPipeline

def CaseChange.apply (change : CaseChange) (c : Char) : Char :=
  match change with
  | none => c
  | upper => c.toUpper
  | lower => c.toLower

namespace ReplacementPart

/-- Changes a text as a part says, the first character apart. -/
def changed (all first : CaseChange) : List Char → List Char
  | [] => []
  | c :: rest => (if first = .none then all else first).apply c :: rest.map all.apply

/-- What stands for a match in front of the rest of the replacement. What is done to the first
character is done to the next part if a group takes nothing. -/
def expand (taken : Nat → List Char) : CaseChange → List ReplacementPart → List Char
  | _, [] => []
  | later, p :: rest =>
    let first := if p.first = .none then later else p.first
    let text := changed p.all first p.text
    let first' := if p.text.isEmpty then first else .none
    match p.group with
    | none => text ++ expand taken .none rest
    | some n =>
      let group := taken n
      if group.isEmpty then
        text ++ expand taken (if p.first = .none then .none else first') rest
      else text ++ changed p.all first' group ++ expand taken .none rest

end ReplacementPart

namespace Found

/-- What a group of a match took, or the whole match for zero. -/
def taken (f : Found) (text : Array Char) (group : Nat) : List Char :=
  if group = 0 then (text.extract f.start f.stop).toList
  else match f.groups.getD group none with
    | some (start, some stop) => (text.extract start stop).toList
    | _ => []

end Found

/-- A line of which a part has been searched. -/
structure Replacing where
  /-- The position where the search goes on. -/
  start : Nat := 0
  count : Nat := 0
  /-- Where the last match ended, if the search goes on there. -/
  ended : Option Nat := none
  /-- What stands for the part that was searched, in reverse. -/
  done : List (List Char) := []
  replaced : Bool := false
deriving Repr

namespace Replacing

/-- What stands for the line, with the part that was not searched. -/
def finish (r : Replacing) (text : Array Char) : Option (List Char) :=
  if r.replaced then
    some (((text.extract r.start text.size).toList :: r.done).reverse.flatten)
  else none

def copyTo (r : Replacing) (text : Array Char) (stop : Nat) : Replacing :=
  { r with start := stop, done := (text.extract r.start stop).toList :: r.done, ended := none }

/-- Puts something in place of the line up to a position. -/
def replaceTo (r : Replacing) (stop : Nat) (cs : List Char) : Replacing :=
  { r with start := stop, done := cs :: r.done, replaced := true }

end Replacing

namespace Substitution

/-- What is done about a match. Answers also whether the search goes on. -/
def replaceOne (s : Substitution) (text : Array Char) (found : Found) (r : Replacing) :
    Replacing × Bool :=
  if found.start = found.stop && r.ended = some found.start then
    (r.copyTo text (found.start + 1), true)
  else
    let r := { r.copyTo text found.start with count := r.count + 1 }
    let isMeant := s.first ≤ r.count
    let r := if isMeant then
        r.replaceTo found.stop (ReplacementPart.expand (found.taken text) .none s.parts)
      else r.copyTo text found.stop
    if isMeant && !s.all then (r, false)
    else if found.start = found.stop then (r.copyTo text (found.stop + 1), true)
    else ({ r with ended := some found.stop }, true)

def replaceFor (s : Substitution) (searcher : Searcher) (text searched : Array Char) :
    Nat → Replacing → Replacing
  | 0, r => r
  | rounds + 1, r =>
    if text.size < r.start then r
    else match searcher.findFrom searched r.start (s.largest != 0) with
      | none => r
      | some found =>
        let (r, more) := s.replaceOne text found r
        if more then s.replaceFor searcher text searched rounds r else r

/-- Replaces the matches in a line, if there is one to be replaced. -/
def result? (s : Substitution) (searcher : Searcher) (line : List Char) : Option (List Char) :=
  let text := line.toArray
  (s.replaceFor searcher text (searcher.prepare line) (2 * text.size + 2) {}).finish text

end Substitution

end ShellPipeline
