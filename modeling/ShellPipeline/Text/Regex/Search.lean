import ShellPipeline.Text.Regex.Basic

/-!
# Searching

A regular expression is searched for in a text as a list of instructions that are followed through
it. Of all matches the first one is found, and the longest that begins there. Its groups are those
of the way that is preferred at every choice among the ways that end where the match ends.
-/

namespace ShellPipeline

/-- An instruction of a search. After the last one the expression has matched. -/
inductive Instruction where
  /-- Takes a character out of a set. -/
  | take (s : CharSet)
  | place (a : Anchor)
  | again (group : Nat)
  | enter (group : Nat)
  /-- A group ends, which may be optional. -/
  | leave (group : Nat) (optional : Bool)
  /-- Goes on at one of two instructions, at the first if possible. -/
  | fork (first second : Nat)
  | goto (target : Nat)
deriving DecidableEq, Repr

def Regex.instructions : Regex → Array Instruction → Array Instruction
  | .empty, code => code
  | .one s, code => code.push (.take s)
  | .place a, code => code.push (.place a)
  | .again n, code => code.push (.again n)
  | .group n optional r, code =>
    (r.instructions (code.push (.enter n))).push (.leave n optional)
  | .seq r s, code => s.instructions (r.instructions code)
  | .either r s, code =>
    let start := code.size
    let code := r.instructions (code.push (.goto 0))
    let middle := code.size
    let code := s.instructions (code.push (.goto 0))
    (code.setIfInBounds start (.fork (start + 1) (middle + 1))).setIfInBounds middle
      (.goto code.size)
  | .perhaps r, code =>
    let start := code.size
    let code := r.instructions (code.push (.goto 0))
    code.setIfInBounds start (.fork (start + 1) code.size)
  | .many r, code =>
    let start := code.size
    let code := (r.instructions (code.push (.goto 0))).push (.goto start)
    code.setIfInBounds start (.fork (start + 1) code.size)

/-- What is searched for. -/
structure Searcher where
  code : Array Instruction
  groups : Nat := 0
  /-- Whether it takes again what groups took. -/
  looksBack : Bool := false
  /-- Whether upper and lower case are the same. -/
  ignoresCase : Bool := false
  /-- The character at which lines end, if places at lines are meant. -/
  lineEnding : Option Char := none
  /-- The characters with which a match can begin, unless it can begin without any. -/
  beginnings : Option CharSet := none

/-- What groups took: where each one began and ended, if it began and if it ended. -/
abbrev Groups := Array (Option (Nat × Option Nat))

/-- A match. -/
structure Found where
  start : Nat
  stop : Nat
  groups : Groups := #[]
deriving Repr

/-- A way through the instructions. -/
structure Way where
  next : Nat
  position : Nat
  groups : Groups
  /-- What groups took when one of them ended the last time after taking something. -/
  former : Groups
  since : List Nat := []

namespace Searcher

/-- Whether a text is at a certain kind of place. -/
def isAt (s : Searcher) (text : Array Char) (position : Nat) (a : Anchor) : Bool :=
  let before := if position = 0 then none else text[position - 1]?
  let after := text[position]?
  let afterWord := before.any isWordChar
  let beforeWord := after.any isWordChar
  match a with
  | .lineStart => before.all fun c => s.lineEnding = some c
  | .lineEnd => after.all fun c => s.lineEnding = some c
  | .textStart => before.isNone
  | .textEnd => after.isNone
  | .wordStart => !afterWord && beforeWord
  | .wordEnd => afterWord && !beforeWord
  | .wordEdge => afterWord != beforeWord
  | .noWordEdge => afterWord = beforeWord

/-- The instructions that take something, and the end, which can be reached from some without
taking anything. It takes at most so many rounds. The ones that were seen are the bits of a
number. -/
def reach (code : Array Instruction) (isAt : Anchor → Bool) : Nat → List Nat → Nat → List Nat →
    List Nat
  | 0, _, _, done => done
  | _, [], _, done => done
  | rounds + 1, i :: rest, seen, done =>
    if seen.testBit i then reach code isAt rounds rest seen done
    else
      let seen := seen ||| (1 <<< i)
      match code[i]? with
      | none => reach code isAt rounds rest seen (i :: done)
      | some (.take _) => reach code isAt rounds rest seen (i :: done)
      | some (.place a) =>
        reach code isAt rounds (if isAt a then (i + 1) :: rest else rest) seen done
      | some (.fork first second) => reach code isAt rounds (first :: second :: rest) seen done
      | some (.goto target) => reach code isAt rounds (target :: rest) seen done
      | some _ => reach code isAt rounds ((i + 1) :: rest) seen done

/-- What can be reached from some instructions at a position. -/
def reachAt (s : Searcher) (text : Array Char) (position : Nat) (starts : List Nat) : List Nat :=
  reach s.code (s.isAt text position) (2 * s.code.size + starts.length + 2) starts 0 []

/-- The set out of which an instruction takes a character. -/
def takenFrom (code : Array Instruction) (i : Nat) : Option CharSet :=
  match code[i]? with
  | some (.take s) => some s
  | _ => none

def afterTaking (code : Array Instruction) (c : Char) (states : List Nat) : List Nat :=
  (states.filter fun i => (takenFrom code i).any (·.contains c)).map (· + 1)

/-- Where the longest match ends that goes on from instructions, which were reached at a
position. -/
def longest (s : Searcher) (text : Array Char) (position : Nat) (states : List Nat)
    (best : Option Nat) : Option Nat :=
  let best := if states.contains s.code.size then some position else best
  if h : position < text.size then
    match afterTaking s.code text[position] states with
    | [] => best
    | next => s.longest text (position + 1) (s.reachAt text (position + 1) next) best
  else best
termination_by text.size - position

/-- Whether the group of a way took the same as another part of the text. -/
def sameText (text : Array Char) (i j : Nat) : Nat → Bool
  | 0 => true
  | n + 1 => text[i + n]? = text[j + n]? && sameText text i j n

/-- What groups took after one of them ended. A group that is optional and takes nothing after it
took something does not count. -/
def leaveGroup (w : Way) (group : Nat) (optional : Bool) : Way :=
  match w.groups.getD group none with
  | none => w
  | some (start, _) =>
    let ended := w.groups.setIfInBounds group (some (start, some w.position))
    if start < w.position then { w with groups := ended, former := ended }
    else if optional && (w.former.getD group none).isSome then { w with groups := w.former }
    else { w with groups := ended }

/-- The ways that go on from a way, the preferred one first. -/
def onward (s : Searcher) (text : Array Char) (w : Way) : List Way :=
  let since := w.next :: w.since
  match s.code[w.next]? with
  | none => []
  | some (.take set) =>
    match text[w.position]? with
    | some c =>
      if set.contains c then
        [{ w with next := w.next + 1, position := w.position + 1, since := [] }]
      else []
    | none => []
  | some (.place a) =>
    if s.isAt text w.position a then [{ w with next := w.next + 1, since }] else []
  | some (.again group) =>
    match w.groups.getD group none with
    | some (start, some stop) =>
      let length := stop - start
      if w.position + length ≤ text.size && sameText text start w.position length then
        [{ w with
          next := w.next + 1
          position := w.position + length
          since := if length = 0 then since else [] }]
      else []
    | _ => []
  | some (.enter group) =>
    [{ w with
      next := w.next + 1
      groups := w.groups.setIfInBounds group (some (w.position, none))
      since }]
  | some (.leave group optional) =>
    [{ leaveGroup w group optional with next := w.next + 1, since }]
  | some (.fork first second) =>
    if w.since.contains first then [{ w with next := second, since }]
    else [{ w with next := first, since }, { w with next := second, since }]
  | some (.goto target) => [{ w with next := target, since }]

/-- Whether a way comes to a choice again without having taken anything. -/
def comesBack (s : Searcher) (w : Way) : Bool :=
  match s.code[w.next]? with
  | some (.fork first _) => w.since.contains first
  | _ => false

/-- What groups took on the first way that ends at a position. No instruction is followed twice at
the same position. It takes at most so many rounds. -/
def groupsFor (s : Searcher) (text : Array Char) (start stop : Nat) :
    Nat → List Way → Array Bool → Groups
  | 0, _, _ => #[]
  | _, [], _ => #[]
  | rounds + 1, w :: rest, seen =>
    let place := (w.position - start) * (s.code.size + 1) + w.next
    if seen.getD place true && !s.comesBack w then s.groupsFor text start stop rounds rest seen
    else if w.next = s.code.size && w.position = stop then w.groups
    else s.groupsFor text start stop rounds (s.onward text w ++ rest) (seen.setIfInBounds place true)

/-- The first of the longest matches that go on from some ways. It takes at most so many rounds. -/
def bestWay (s : Searcher) (text : Array Char) : Nat → List Way → Option Way → Option Way
  | 0, _, best => best
  | _, [], best => best
  | rounds + 1, w :: rest, best =>
    let isBetter := w.next = s.code.size && best.all fun b => b.position < w.position
    s.bestWay text rounds (s.onward text w ++ rest) (if isBetter then some w else best)

def firstWay (s : Searcher) (position : Nat) : Way :=
  let none := Array.replicate (s.groups + 1) none
  { next := 0, position, groups := none, former := none }

/-- A bound on the rounds of a search for a match that takes again what groups took. -/
def wayLimit : Nat := 2000000

def matchAt (s : Searcher) (text : Array Char) (position : Nat) (wantsGroups : Bool) :
    Option Found :=
  if s.looksBack then
    (s.bestWay text wayLimit [s.firstWay position] none).map fun w =>
      { start := position, stop := w.position, groups := w.groups }
  else
    (s.longest text position (s.reachAt text position [0]) none).map fun stop =>
      if wantsGroups && s.groups != 0 then
        let places := (stop - position + 1) * (s.code.size + 1)
        { start := position
          stop
          groups := s.groupsFor text position stop (4 * places + 4) [s.firstWay position]
            (Array.replicate places false) }
      else { start := position, stop }

/-- The first match that begins at a position or after it. -/
def findFrom (s : Searcher) (text : Array Char) (position : Nat) (wantsGroups : Bool) :
    Option Found :=
  let possible := match s.beginnings, text[position]? with
    | none, _ => true
    | some _, none => false
    | some set, some c => set.contains c
  match if possible then s.matchAt text position wantsGroups else none with
  | some found => some found
  | none =>
    if position < text.size then s.findFrom text (position + 1) wantsGroups else none
termination_by text.size - position

/-- A text in the form in which it is searched. -/
def prepare (s : Searcher) (text : List Char) : Array Char :=
  (if s.ignoresCase then text.map Char.toUpper else text).toArray

/-- The characters with which a match of some instructions can begin, unless it can begin without
any. -/
def beginningsOf (code : Array Instruction) : Option CharSet :=
  let states := reach code (fun _ => true) (2 * code.size + 3) [0] 0 []
  let sets := states.map (takenFrom code)
  if sets.all Option.isSome then
    some (CharSet.ofProperty fun c => sets.any fun set => set.any (·.contains c))
  else none

/-- What is searched for with an expression that has so many groups. -/
def ofRegex (r : Regex) (groups : Nat) (ignoresCase : Bool) (lineEnding : Option Char) :
    Searcher :=
  let code := r.instructions #[]
  let looksBack := r.looksBack
  { code, groups, looksBack, ignoresCase, lineEnding
    beginnings := if looksBack then none else beginningsOf code }

end Searcher

end ShellPipeline
