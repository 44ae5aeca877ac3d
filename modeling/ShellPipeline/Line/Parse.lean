import ShellPipeline.Line.Lexer
import ShellPipeline.Pipeline.Basic

/-!
# From a line to a pipeline

Each command of a line becomes a stage. A redirection takes the word after it as its file,
wherever it stands in the command; the other words are the command's own. Every stage but the last
pipes into the next one, so only the last may send its output into a file. The stages that are
read are well wired, so no check is left for later.
-/

namespace ShellPipeline

/-- Why a line is no pipeline. -/
inductive ParseError where
  | lexical (e : LexicalError)
  /-- A redirection is not followed by a word. -/
  | missingTarget (r : Redirect)
  /-- A command has no words of its own. -/
  | emptyCommand
  | duplicateInput
  | duplicateOutput
  /-- A command before the last has an output file. -/
  | conflictingOutput
deriving DecidableEq, Repr

def ParseError.message : ParseError → String
  | lexical .unterminatedQuote => "unterminated quote"
  | lexical .trailingEscape => "trailing backslash"
  | missingTarget r => "missing file name after '" ++ r.symbol ++ "'"
  | emptyCommand => "missing command"
  | duplicateInput => "more than one input redirection"
  | duplicateOutput => "more than one output redirection"
  | conflictingOutput => "output redirected to a file and to a pipe"

/-- What has been read of one command. -/
structure Segment where
  words : Array String := #[]
  input : Option String := none
  /-- Its output file and what happens to the content of that file. -/
  output : Option (WriteMode × String) := none
deriving DecidableEq, Repr

namespace Segment

/-- Takes a file for a redirection, unless there is one already. -/
def redirect (s : Segment) (path : String) : Redirect → Except ParseError Segment
  | .input =>
    if s.input.isSome then .error .duplicateInput else .ok { s with input := some path }
  | .output mode =>
    if s.output.isSome then .error .duplicateOutput
    else .ok { s with output := some (mode, path) }

/-- Reads items from left to right and stops at the first error. -/
def scan (s : Segment) : List Item → Except ParseError Segment
  | [] => .ok s
  | .word w :: rest => scan { s with words := s.words.push w } rest
  | .redirect r :: .word path :: rest =>
    match s.redirect path r with
    | .error e => .error e
    | .ok s' => scan s' rest
  | .redirect r :: _ => .error (.missingTarget r)

/-- Reads all items of a command, which must have a word of its own. -/
def read (items : List Item) : Except ParseError Segment :=
  match scan {} items with
  | .error e => .error e
  | .ok s => if s.words.isEmpty then .error .emptyCommand else .ok s

theorem words_ne_nil_of_read {items : List Item} {s : Segment} (h : read items = .ok s) :
    s.words.toList ≠ [] := by
  unfold read at h
  split at h
  · simp at h
  · split at h
    · simp at h
    · next hw =>
      cases h
      simpa using hw

def lastOutput (s : Segment) : Output :=
  s.output.elim .inherit fun (mode, path) => .file mode path

theorem lastOutput_ne_pipe (s : Segment) : s.lastOutput ≠ .pipe := by
  unfold lastOutput
  cases s.output <;> simp

def lastStage (s : Segment) : Stage :=
  { argv := s.words.toList, input := s.input, output := s.lastOutput }

/-- The stage of a command that is followed by another one. -/
def pipedStage (s : Segment) : Except ParseError Stage :=
  if s.output.isSome then .error .conflictingOutput
  else .ok { argv := s.words.toList, input := s.input, output := .pipe }

end Segment

def readStages : List (List Item) → Except ParseError (List Stage)
  | [] => .ok []
  | [items] => (Segment.read items).map fun s => [s.lastStage]
  | items :: next :: rest =>
    match (Segment.read items).bind Segment.pipedStage with
    | .error e => .error e
    | .ok stage => (readStages (next :: rest)).map (stage :: ·)

theorem eq_of_map_eq_ok {ε α β : Type} {f : α → β} {x : Except ε α} {b : β}
    (h : x.map f = .ok b) : ∃ a, x = .ok a ∧ f a = b := by
  cases x with
  | error e => simp [Except.map] at h
  | ok a => exact ⟨a, rfl, by simpa [Except.map] using h⟩

theorem wellWired_of_readStages {segs : List (List Item)} {stages : List Stage} (hs : segs ≠ [])
    (h : readStages segs = .ok stages) : WellWired stages := by
  induction segs generalizing stages with
  | nil => exact absurd rfl hs
  | cons items segs ih =>
    cases segs with
    | nil =>
      obtain ⟨s, hr, rfl⟩ := eq_of_map_eq_ok (by simpa only [readStages] using h)
      exact ⟨Segment.words_ne_nil_of_read hr, s.lastOutput_ne_pipe⟩
    | cons next rest =>
      simp only [readStages] at h
      split at h
      · simp at h
      · next stage hstage =>
        obtain ⟨more, hm, rfl⟩ := eq_of_map_eq_ok h
        have hw := ih (by simp) hm
        cases hr : Segment.read items with
        | error e => simp [hr, Except.bind] at hstage
        | ok s =>
          simp only [hr, Except.bind, Segment.pipedStage] at hstage
          split at hstage
          · simp at hstage
          · cases hstage
            cases more with
            | nil => exact absurd rfl hw.ne_nil
            | cons t r => exact ⟨⟨Segment.words_ne_nil_of_read hr, rfl⟩, hw⟩

/-- Reads a line as a pipeline. A line without tokens is no pipeline and no error. -/
def parse (line : String) : Except ParseError (Option Pipeline) :=
  match tokenize line with
  | .error e => .error (.lexical e)
  | .ok tokens =>
    if tokens = [] then .ok none
    else match h : readStages (segments tokens) with
      | .error e => .error e
      | .ok stages => .ok (some ⟨stages, wellWired_of_readStages (segments_ne_nil tokens) h⟩)

end ShellPipeline
