import ShellPipeline.Script.Variables
import ShellPipeline.Text.Wildcard

/-!
# Fields

The text that a word stands for is cut into fields where a value that was not quoted holds
separators. A field with a pattern stands for the paths that match it, if there are any.
-/

namespace ShellPipeline

namespace Script

/-- A piece of what a word stands for. -/
inductive Piece where
  | char (c : Char) (quoted : Bool)
  | mark
  | gap
  /-- The beginning of a value that can be cut, perhaps only at gaps. -/
  | opening (onlyGaps : Bool)
  | closing
deriving DecidableEq, Repr

namespace Piece

def ofChars (cs : List Char) (quoted : Bool) : List Piece :=
  cs.map (.char · quoted)

def divisible (onlyGaps : Bool) (ps : List Piece) : List Piece :=
  .opening onlyGaps :: ps ++ [.closing]

def text (ps : List Piece) : List Char :=
  ps.filterMap fun p => match p with
    | char c _ => some c
    | _ => none

def untilGap (ps : List Piece) : List Char :=
  text (ps.takeWhile (· != gap))

/-- The pattern of pieces. A backslash in a value quotes what follows it. -/
def toPattern : List Piece → Pattern
  | [] => []
  | char '\\' false :: char c _ :: rest => { char := c, quoted := true } :: toPattern rest
  | char c quoted :: rest => { char := c, quoted } :: toPattern rest
  | _ :: rest => toPattern rest

end Piece

/-- The cutting of pieces into fields. -/
structure Cutting where
  fields : List (List Piece) := []
  /-- The field that goes on, in reverse. -/
  field : List Piece := []
  /-- Whether a value that can be cut goes on, and whether it can only be cut at gaps. -/
  value : Option Bool := none
  /-- Whether the last value that can be cut could only be cut at gaps. -/
  onlyGaps : Bool := false
  wasOnlyGaps : Bool := false
  /-- Whether the last separator was a blank. -/
  afterBlank : Bool := false
  /-- Whether blanks that separate are passed over. -/
  passes : Bool := false
  /-- The number of fields that can still begin, if it is limited. -/
  limit : Option Nat := none
  /-- The size of the last field without the separators at its end, if there are some. -/
  kept : Option Nat := none

namespace Cutting

def blanks : List Char :=
  [' ', '\t', '\n']

def endField (c : Cutting) : Cutting :=
  { c with fields := c.field.reverse :: c.fields, field := [] }

def push (c : Cutting) (p : Piece) : Cutting :=
  { c with field := p :: c.field, passes := false }

/-- Takes a separator. The last field goes on after it. -/
def separate (c : Cutting) (p : Piece) (onlyGaps isBlank : Bool) : Cutting :=
  let afterBlank := if c.wasOnlyGaps || onlyGaps then c.afterBlank else isBlank
  if c.field.isEmpty && afterBlank then { c with afterBlank := false, passes := false }
  else if c.limit = some 1 then
    { c.push p with limit := some 0, afterBlank, kept := some c.field.length }
  else { c.endField with afterBlank, passes := !onlyGaps, limit := c.limit.map (· - 1) }

def continueLast (c : Cutting) (p : Piece) (separates isBlank : Bool) : Cutting :=
  if separates && isBlank then { c.push p with kept := some (c.kept.getD c.field.length) }
  else
    let kept := if separates && c.afterBlank then c.kept else none
    { c.push p with kept, afterBlank := false }

def step (separators : List Char) (c : Cutting) (p : Piece) : Cutting :=
  match p with
  | .opening onlyGaps =>
    { c with
      value := some onlyGaps
      wasOnlyGaps := c.onlyGaps
      onlyGaps
      afterBlank := false
      passes := false }
  | .closing => { c with value := none, passes := false }
  | p =>
    match c.value with
    | none => c.push p
    | some onlyGaps =>
      let (separates, isBlank) := match p with
        | .gap => (true, true)
        | .char d _ => (!onlyGaps && separators.contains d, blanks.contains d)
        | _ => (false, false)
      if c.limit = some 0 then c.continueLast p separates isBlank
      else if !separates then c.push p
      else if c.passes then
        if isBlank then c
        else if c.afterBlank then { c with afterBlank := false }
        else c.separate p onlyGaps isBlank
      else c.separate p onlyGaps isBlank

/-- Drops the separators at the end of the last field. -/
def trimLast (c : Cutting) : Cutting :=
  match c.kept with
  | none => c
  | some size => { c with field := c.field.drop (c.field.length - size) }

/-- The fields of pieces, of which there are at most so many if that is limited. -/
def fieldsOf (separators : List Char) (limit : Option Nat) (ps : List Piece) :
    List (List Piece) :=
  let c := ps.foldl (step separators) { limit }
  (if c.onlyGaps || !c.field.isEmpty then c.trimLast.endField else c).fields.reverse

end Cutting

namespace Act

def matchingNames (dir : String) (p : Pattern) : Act (List String) := do
  match ← call (.list (if dir = "" then "." else dir)) with
  | .error _ => return []
  | .ok names =>
    let names := if p.head?.any (·.char = '.') then "." :: ".." :: names
      else names.filter (!·.startsWith ".")
    return names.filter fun name => p.isMatch name.toList

/-- The paths that begin with a directory and match patterns name by name. -/
def matchingPaths : String → List Pattern → Act (List String)
  | _, [] => pure []
  | dir, [p] => do
    if p.isWild then return (← matchingNames dir p).map (dir ++ ·)
    if dir = "" then return []
    let path := dir ++ p.text
    match ← call (.describe path false) with
    | .ok _ => return [path]
    | .error _ => return []
  | dir, p :: rest => do
    if p.isWild then
      let mut paths : List String := []
      for name in ← matchingNames dir p do
        paths := paths ++ (← matchingPaths (dir ++ name ++ "/") rest)
      return paths
    matchingPaths (dir ++ p.text ++ "/") rest

def fieldTexts (field : List Piece) : Act (List String) := do
  let plain := [String.ofList (Piece.text field)]
  if (← get).has 'f' then return plain
  let p := Piece.toPattern field
  if !p.isWild then return plain
  let paths ← matchingPaths "" p.components
  return if paths.isEmpty then plain else paths.mergeSort (· ≤ ·)

end Act

end Script

end ShellPipeline
