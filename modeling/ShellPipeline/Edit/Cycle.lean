import ShellPipeline.Edit.Read
import ShellPipeline.Edit.Substitute
import ShellPipeline.Text.Locale
import ShellPipeline.Text.Numeral
import ShellPipeline.Tool.Quote

/-!
# Cycles of an editing script

A script is applied to line after line in cycles: a line is read, the commands are applied to it, it
is put out, and after it what was asked for at the end of the cycle. An editor does this by itself as
long as it has input at hand. Then it makes a request, and goes on when that is fulfilled.
-/

namespace ShellPipeline

/-- Whether a range of lines has begun. -/
inductive RangeState where
  | before
  /-- It has, and ends at a line if that is known. -/
  | inside (stop : Option Nat)
  | after
deriving DecidableEq, Repr

/-- What is put out at the end of a cycle. -/
inductive Appended where
  | text (cs : List Char)
  | file (path : String)
deriving DecidableEq, Repr

/-- What an editor does next. -/
inductive EditPhase where
  /-- It puts out what was asked for at the end of the cycle. -/
  | append
  /-- It takes the next line, perhaps as a further one. -/
  | take (further : Bool)
  /-- It applies the command with a number, if it is meant for the line, and those after it. -/
  | command (number : Nat)
  /-- It applies the command with a number and those after it. -/
  | perform (number : Nat)
  /-- It puts out the line at the end of a cycle. -/
  | finish
  | print
  | copy (target : EditOutput)
  | leave (code : Nat)
deriving DecidableEq, Repr

/-- What an editor asks for. -/
inductive EditRequest where
  /-- More of the file that is open. -/
  | fill
  | openNext
  /-- That the file that is open is closed. -/
  | closeFile
  /-- That what was put out is written. -/
  | flush
  /-- That a text is written somewhere else. -/
  | write (target : EditOutput) (cs : List Char)
  | copy (path : String)
  /-- More of a file that is read line by line. -/
  | fillFile (file : Nat)
  /-- That a command is run, and that what it writes is put out or becomes the line. -/
  | run (command : List Char) (becomesLine : Bool)
  | leave (code : Nat)
  | fail (f : EditFault)
deriving DecidableEq, Repr

/-- A file of which lines are taken. -/
structure LineSource where
  /-- The characters that were read and not used. -/
  ahead : List Char := []
  isNew : Bool := true
  isAtEnd : Bool := false
deriving DecidableEq, Repr

/-- An editor at work. -/
structure EditState where
  pattern : List Char := []
  isEnded : Bool := true
  held : List Char := []
  /-- Whether that was a line with an end. -/
  isHeldEnded : Bool := true
  line : Nat := 0
  /-- Whether something was replaced since the line was read. -/
  hasReplaced : Bool := false
  /-- What was searched for the last time, and whether its groups count. -/
  searcher : Option (Searcher × Bool) := none
  ranges : Array RangeState := #[]
  /-- What is put out at the end of the cycle, in reverse. -/
  appended : List Appended := []
  /-- What was put out and not written, in reverse. -/
  out : List (List Char) := []
  outSize : Nat := 0
  /-- Whether the last line that was put out has no end. -/
  owesEnd : Bool := false
  /-- The other places where the last line has no end. -/
  owing : List EditOutput := []
  /-- The characters of the open file that were read and not used. -/
  ahead : List Char := []
  /-- The files of which lines are taken. -/
  sources : Array LineSource := #[]
  /-- The beginning of a line, in reverse. -/
  begun : List Char := []
  /-- Whether the open file has no more characters. -/
  isAtEnd : Bool := false
  isOpen : Bool := false
  name : String := "-"
  files : List String := []
  /-- Whether lines are counted anew in the next file. -/
  isFresh : Bool := false
  plan : List EditPhase := []

namespace EditScript

def ranges (p : EditScript) : Array RangeState :=
  p.commands.map fun c => match c.first with
    | some (.line 0) => .inside none
    | _ => .before

/-- A text with the end of a line of the script. -/
def endedText (p : EditScript) (cs : List Char) : List Char :=
  if cs.isEmpty then cs else cs.dropLast ++ [p.ending]

end EditScript

/-- A part of an editor's work that has a result, or makes a request and is then done once
more. -/
abbrev Attempt := StateT EditState (Except (EditState × EditRequest))

namespace EditState

def start (p : EditScript) (files : List String) : EditState :=
  { files
    ranges := p.ranges
    sources := (p.inputs.map fun _ => {}).toArray
    plan := [.append, .take false, .command 0] }

def putRaw (s : EditState) (cs : List Char) : EditState :=
  { s with out := cs :: s.out, outSize := s.outSize + cs.length }

/-- Puts out the end of the last line if it has none. -/
def payEnd (p : EditScript) (s : EditState) : EditState :=
  if s.owesEnd then { s.putRaw [p.ending] with owesEnd := false } else s

def putText (p : EditScript) (s : EditState) (cs : List Char) : EditState :=
  (s.payEnd p).putRaw cs

def putLine (p : EditScript) (s : EditState) (cs : List Char) (isEnded : Bool) : EditState :=
  let s := s.putText p cs
  if isEnded then s.putRaw [p.ending] else { s with owesEnd := true }

def lineFor (p : EditScript) (s : EditState) (target : EditOutput) (cs : List Char)
    (isEnded : Bool) : EditState × List Char :=
  let before := if s.owing.contains target then [p.ending] else []
  let owing := s.owing.erase target
  if isEnded then ({ s with owing }, before ++ cs ++ [p.ending])
  else ({ s with owing := target :: owing }, before ++ cs)

/-- Drops the range states and the line number at the beginning of a file that is counted
apart. -/
def restart (p : EditScript) (s : EditState) : EditState :=
  { s.payEnd p with
    line := 0
    held := []
    isHeldEnded := true
    ranges := p.ranges
    sources := s.sources.map fun _ => {}
    isFresh := false }

def closed (p : EditScript) (s : EditState) : EditState :=
  { s with isOpen := false, isAtEnd := false, isFresh := p.separate }

def ask {α : Type} (s : EditState) (r : EditRequest) : Attempt α :=
  throw (s, r)

def isLast (p : EditScript) : Attempt Bool := do
  let s ← get
  if s.isOpen && !s.ahead.isEmpty then return false
  if s.isOpen && !s.isAtEnd then s.ask .fill
  if p.separate then return true
  if s.isOpen then (s.closed p).ask .closeFile
  if s.files.isEmpty then return true
  s.ask .openNext

/-- Searches the line for what is given, or for what was searched for the last time. -/
def holds (given : Option Searcher) : Attempt Bool := do
  let s ← get
  match given.map (·, false) <|> s.searcher with
  | none => s.ask (.fail .noPattern)
  | some (x, counts) =>
    set { s with searcher := some (x, counts) }
    return (x.findFrom (x.prepare s.pattern) 0 false).isSome

def fits (p : EditScript) (a : Address) : Attempt Bool := do
  let number := (← get).line
  match a with
  | .line n => return number = n
  | .step first step => return first ≤ number && (number - first) % step = 0
  | .last => isLast p
  | .holding x => holds x
  | .after n | .multiple n => return n = 0

def setRange (number : Nat) (r : RangeState) : Attempt Unit :=
  modify fun s => { s with ranges := s.ranges.setIfInBounds number r }

/-- Whether the line fits a range that begins with it. One that begins at a line that has passed
may have ended as well. -/
def beginsRange (p : EditScript) (number : Nat) (hasPassed : Bool) (stop : Address) :
    Attempt Bool := do
  let line := (← get).line
  match stop with
  | .line n =>
    setRange number (if n ≤ line then .after else .inside none)
    return !hasPassed || line ≤ n
  | .after 0 | .multiple 0 => setRange number .after
  | .after n => setRange number (.inside (some (line + n)))
  | .multiple n => setRange number (.inside (some (line + n - line % n)))
  | .step _ _ | .last => setRange number (if ← fits p stop then .after else .inside none)
  | _ => setRange number (.inside none)
  return true

/-- Whether the line fits a range that has begun and may end at a line that is known. -/
def continuesRange (p : EditScript) (number : Nat) (known : Option Nat) (stop : Address) :
    Attempt Bool := do
  let line := (← get).line
  match known, stop with
  | some n, _ =>
    if n ≤ line then setRange number .after
    return true
  | none, .line n =>
    if n ≤ line then setRange number .after
    return line ≤ n
  | none, stop =>
    if ← fits p stop then setRange number .after
    return true

/-- Whether a command with a number is applied to the line. -/
def selects (p : EditScript) (number : Nat) (c : EditCommand) : Attempt Bool := do
  let s ← get
  match c.first, c.last with
  | none, _ => return true
  | some first, none => fits p first
  | some first, some stop =>
    match s.ranges.getD number .before, first with
    | .inside known, _ => continuesRange p number known stop
    | .after, .line _ => return false
    | .before, .line n =>
      if s.line < n then return false
      beginsRange p number (n < s.line) stop
    | _, first =>
      if ← fits p first then beginsRange p number false stop else return false

/-- The escape that a character is shown as, or the character. -/
def visibleChar (c : Char) : List Char :=
  if c = '\\' then ['\\', '\\'] else if Quote.isPlain c then [c] else Quote.controlEscape c

/-- The visible form of characters in lines of a width, at a position in such a line. -/
def visibleFrom (ending : Char) (width : Nat) : Nat → List Char → List Char
  | _, [] => ['$']
  | position, c :: rest =>
    let shown := visibleChar c
    if 0 < width && width - 1 < position + shown.length then
      '\\' :: ending :: shown ++ visibleFrom ending width shown.length rest
    else shown ++ visibleFrom ending width (position + shown.length) rest

def goOn (s : EditState) (plan : List EditPhase) : EditState :=
  { s with plan }

def cycle : List EditPhase :=
  [.append, .take false, .command 0]

/-- The phases of a cycle for a line that has been read. -/
def sameLine : List EditPhase :=
  [.append, .command 0]

/-- The first line of several, and whether it has an end. -/
def firstLine (p : EditScript) (s : EditState) : List Char × Bool :=
  let first := s.pattern.takeWhile (· ≠ p.ending)
  (first, s.isEnded || first.length < s.pattern.length)

/-- Writes a line somewhere else. Standard output is the same as where lines are put out unless
lines are put out into files. -/
def writeLine (p : EditScript) (s : EditState) (target : EditOutput) (cs : List Char)
    (isEnded : Bool) : EditState × Option EditRequest :=
  let (s, cs) := s.lineFor p target cs isEnded
  if target = .output && !p.inPlace then (s.putRaw cs, none) else (s, some (.write target cs))

def copyLine (p : EditScript) (s : EditState) (target : Option EditOutput) :
    EditState × Option EditRequest :=
  match target with
  | none => (s, none)
  | some target => s.writeLine p target s.pattern s.isEnded

def substitute (p : EditScript) (s : EditState) (x : Substitution) (next : List EditPhase) :
    EditState × Option EditRequest :=
  match x.searcher.map (·, true) <|> s.searcher with
  | none => (s, some (.fail .noPattern))
  | some (searcher, counts) =>
    if !counts && searcher.groups < x.largest then (s, some (.fail (.group x.largest)))
    else
      let s := { s with searcher := some (searcher, true) }.goOn next
      match x.result? searcher s.pattern with
      | none => (s, none)
      | some pattern =>
        let s := { s with pattern, hasReplaced := true }
        let s := if x.prints.1 then s.putLine p s.pattern s.isEnded else s
        if x.runs then
          let prints := if x.prints.2 then [EditPhase.print] else []
          let copies := x.copy.toList.map EditPhase.copy
          (s.goOn (prints ++ copies ++ next), some (.run s.pattern true))
        else s.copyLine p x.copy

/-- Asks for the next line of a file at the end of the cycle, if there is one. Lines of the file
that is open are taken from it. -/
def readLine (p : EditScript) (s : EditState) (file : Nat) (next : List EditPhase) :
    EditState × Option EditRequest :=
  let source := s.sources.getD file {}
  let isShared := p.inputs[file]? = some "/dev/stdin" && s.isOpen && s.name = "-"
  let (ahead, isAtEnd) := if isShared then (s.ahead, s.isAtEnd) else (source.ahead, source.isAtEnd)
  let line := ahead.takeWhile (· ≠ p.ending)
  let isWhole := line.length < ahead.length
  if !isWhole && !isAtEnd then (s, some (if isShared then .fill else .fillFile file))
  else if ahead.isEmpty then (s.goOn next, none)
  else
    let cs := if isWhole then line ++ [p.ending] else line
    let rest := ahead.drop cs.length
    let s := { s with appended := .text cs :: s.appended }.goOn next
    if isShared then ({ s with ahead := rest }, none)
    else
      let sources := s.sources.setIfInBounds file { source with ahead := rest }
      ({ s with sources }, none)

def apply (p : EditScript) (s : EditState) (number : Nat) (a : EditAction) :
    EditState × Option EditRequest :=
  let next := [EditPhase.command (number + 1)]
  let isInside := match s.ranges.getD number .before with
    | .inside _ => true
    | _ => false
  match a with
  | .block _ | .nothing => (s.goOn next, none)
  | .number => ((s.putText p ((decimal s.line).toList ++ [p.ending])).goOn next, none)
  | .append cs => ({ s with appended := .text cs :: s.appended }.goOn next, none)
  | .insert cs => ((s.putText p (p.endedText cs)).goOn next, none)
  | .change cs => ((if isInside then s else s.putText p (p.endedText cs)).goOn cycle, none)
  | .jump condition target =>
    let jumps := match condition with
      | none => true
      | some replaced => s.hasReplaced = replaced
    let s := if condition.isSome then { s with hasReplaced := false } else s
    (s.goOn (if jumps then [.command target] else next), none)
  | .drop => (s.goOn cycle, none)
  | .dropFirst =>
    let first := s.pattern.takeWhile (· ≠ p.ending)
    if first.length < s.pattern.length then
      ({ s with pattern := s.pattern.drop (first.length + 1) }.goOn sameLine, none)
    else (s.goOn cycle, none)
  | .run none => (s.goOn next, some (.run s.pattern true))
  | .run (some cs) => ((s.payEnd p).goOn next, some (.run (cs.take (cs.length - 1)) false))
  | .fileName => ((s.putText p (s.name.toList ++ [p.ending])).goOn next, none)
  | .take => ({ s with pattern := s.held, isEnded := s.isHeldEnded }.goOn next, none)
  | .takeMore =>
    let pattern := s.pattern ++ p.ending :: s.held
    ({ s with pattern, isEnded := s.isHeldEnded }.goOn next, none)
  | .hold => ({ s with held := s.pattern, isHeldEnded := s.isEnded }.goOn next, none)
  | .holdMore =>
    let held := s.held ++ p.ending :: s.pattern
    ({ s with held, isHeldEnded := s.isEnded }.goOn next, none)
  | .exchange =>
    ({ s with
        pattern := s.held
        isEnded := s.isHeldEnded
        held := s.pattern
        isHeldEnded := s.isEnded }.goOn next, none)
  | .list width =>
    let shown := visibleFrom p.ending (width.getD p.width) 0 s.pattern
    ((s.putText p (shown ++ [p.ending])).goOn next, none)
  | .next =>
    match (isLast p).run s with
    | .error (s, r) => (s, some r)
    | .ok (isLast, s) =>
      let s := if p.silent then s else s.putLine p s.pattern s.isEnded
      (s.goOn (if isLast then cycle else .append :: .take false :: next), none)
  | .nextMore =>
    match (isLast p).run s with
    | .error (s, r) => (s, some r)
    | .ok (true, s) =>
      let s := if p.silent || p.basicOnly then s else s.putLine p s.pattern s.isEnded
      (s.goOn cycle, none)
    | .ok (false, s) => (s.goOn (.append :: .take true :: next), none)
  | .print => ((s.putLine p s.pattern s.isEnded).goOn next, none)
  | .printFirst =>
    let (first, isEnded) := s.firstLine p
    ((s.putLine p first isEnded).goOn next, none)
  | .quit prints code =>
    let s := if prints && !p.silent then s.putLine p s.pattern s.isEnded else s
    let s := if prints then s.payEnd p else s
    (s.goOn (if prints then [.append, .leave code] else [.leave code]), none)
  | .read path => ({ s with appended := .file path :: s.appended }.goOn next, none)
  | .readNow path => ((s.payEnd p).goOn next, some (.copy path))
  | .readLine file => s.readLine p file next
  | .substitute x => s.substitute p x next
  | .write firstOnly target =>
    let (cs, isEnded) := if firstOnly then s.firstLine p else (s.pattern, s.isEnded)
    (s.goOn next).writeLine p target cs isEnded
  | .replaceChars table =>
    let pattern := s.pattern.map fun c => (table.lookup c).getD c
    ({ s with pattern }.goOn next, none)
  | .clear => ({ s with pattern := [] }.goOn next, none)

/-- Applies the command with a number if it is meant for the line. -/
def applyNumber (p : EditScript) (s : EditState) (number : Nat) :
    EditState × Option EditRequest :=
  match p.commands[number]? with
  | none => (s.goOn [.finish], none)
  | some c =>
    match (selects p number c).run s with
    | .error (s, r) => (s, some r)
    | .ok (fits, s) =>
      if fits != c.negated then (s.goOn [.perform number], none)
      else match c.action with
        | .block stop => (s.goOn [.command stop], none)
        | _ => (s.goOn [.command (number + 1)], none)

def performNumber (p : EditScript) (s : EditState) (number : Nat) :
    EditState × Option EditRequest :=
  match p.commands[number]? with
  | none => (s.goOn [.finish], none)
  | some c => s.apply p number c.action

def useLine (p : EditScript) (s : EditState) (further : Bool) (line : List Char)
    (isEnded : Bool) : EditState :=
  { s with
    pattern := if further then s.pattern ++ p.ending :: line else line
    isEnded
    line := s.line + 1
    begun := [] }

def takeLine (p : EditScript) (s : EditState) (further : Bool) (rest : List EditPhase) :
    EditState × Option EditRequest :=
  let s := { s with hasReplaced := false }
  if s.isOpen then
    let line := s.ahead.takeWhile (· ≠ p.ending)
    match s.ahead.drop line.length with
    | _ :: ahead =>
      let s := { s with ahead }.useLine p further (s.begun.reverse ++ line) true
      (s.goOn rest, none)
    | [] =>
      let s := { s with ahead := [], begun := line.reverse ++ s.begun }
      if !s.isAtEnd then (s, some .fill)
      else if s.begun.isEmpty then (s.closed p, some .closeFile)
      else ((s.useLine p further s.begun.reverse false).goOn rest, none)
  else if s.files.isEmpty then (s, some (.leave 0))
  else (if s.isFresh then s.restart p else s, some .openNext)

def step (p : EditScript) (s : EditState) : EditState × Option EditRequest :=
  match s.plan with
  | [] => (s, some (.leave 0))
  | .append :: rest =>
    match s.appended.reverse with
    | [] => (s.goOn rest, none)
    | .text cs :: more => ({ s with appended := more.reverse }.putText p cs, none)
    | .file path :: more =>
      ({ s with appended := more.reverse }.payEnd p, some (.copy path))
  | .take further :: rest => s.takeLine p further rest
  | .command number :: _ => s.applyNumber p number
  | .perform number :: _ => s.performNumber p number
  | .finish :: _ =>
    let s := if p.silent then s else s.putLine p s.pattern s.isEnded
    (s.goOn cycle, none)
  | .print :: rest => ((s.putLine p s.pattern s.isEnded).goOn rest, none)
  | .copy target :: rest => (s.goOn rest).writeLine p target s.pattern s.isEnded
  | .leave code :: _ => (s, some (.leave code))

/-- The number of characters that are put out before they are written. -/
def outLimit : Nat := 4096

/-- Works until a request is made, for at most so many steps. -/
def work (p : EditScript) : Nat → EditState → EditState × EditRequest
  | 0, s => (s, .flush)
  | steps + 1, s =>
    if (if p.unbuffered then 0 else outLimit) < s.outSize then (s, .flush)
    else match s.step p with
      | (s, some r) => (s, r)
      | (s, none) => work p steps s

end EditState

end ShellPipeline
