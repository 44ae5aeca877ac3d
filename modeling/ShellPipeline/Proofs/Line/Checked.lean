import ShellPipeline.Proofs.Line.Junction

/-!
# Reading a line with every step checked

Here a line is read without relying on what the steps before have made sure of. The tokens of a
command may hold a pipe, a line may have no commands, and the stages that are read may have a
defect; a step that has no result then is a misstep. There is none: what is read this way is what is
read without the checks.
-/

namespace ShellPipeline

/-- A step that has no result on what it is given. -/
inductive Misstep where
  /-- A pipe stands among the tokens of one command. -/
  | pipeInCommand
  | lastOfNoCommands
  /-- The stages that were read are no pipeline. -/
  | defect (d : Defect)
  | firstOfNoStages
  | lastOfNoStages
deriving DecidableEq, Repr

/-- Why reading a line ends early. -/
inductive Halt where
  | refused (e : ParseError)
  | misstep (m : Misstep)
deriving DecidableEq, Repr

namespace Checked

def lastPosition {β : Type} (m : Misstep) (l : List β) : Except Misstep Nat :=
  if l.isEmpty then .error m else .ok (l.length - 1)

def scan (s : Segment) : List Token → Except Halt Segment
  | [] => .ok s
  | .item (.word w) :: rest => scan { s with words := s.words.push w } rest
  | .item (.redirect r) :: .item (.word path) :: rest =>
    match s.redirect path r with
    | .error e => .error (.refused e)
    | .ok s' => scan s' rest
  | .item (.redirect r) :: _ => .error (.refused (.missingTarget r))
  | .pipe :: _ => .error (.misstep .pipeInCommand)

def read (tokens : List Token) : Except Halt Segment :=
  match scan {} tokens with
  | .error h => .error h
  | .ok s => if s.words.isEmpty then .error (.refused .emptyCommand) else .ok s

def outputOf (s : Segment) (isLast : Bool) : Except Halt Output :=
  match s.output, isLast with
  | some _, false => .error (.refused .conflictingOutput)
  | some (mode, path), true => .ok (.file mode path)
  | none, false => .ok .pipe
  | none, true => .ok .inherit

def stageOf (last index : Nat) (tokens : List Token) : Except Halt Stage :=
  match read tokens with
  | .error h => .error h
  | .ok s =>
    (outputOf s (index == last)).map fun output =>
      { argv := s.words.toList, input := s.input, output }

def stagesFrom (last index : Nat) : List (List Token) → Except Halt (List Stage)
  | [] => .ok []
  | tokens :: rest =>
    match stageOf last index tokens with
    | .error h => .error h
    | .ok stage => (stagesFrom last (index + 1) rest).map (stage :: ·)

def stages (tokens : List Token) : Except Halt (List Stage) :=
  match lastPosition .lastOfNoCommands (tokens.splitOn .pipe) with
  | .error m => .error (.misstep m)
  | .ok last => stagesFrom last 0 (tokens.splitOn .pipe)

def wired (l : List Stage) : Except Halt (List Stage) :=
  match Pipeline.ofStages l with
  | .error d => .error (.misstep (.defect d))
  | .ok p => .ok p.stages

def parse (line : String) : Except Halt (Option (List Stage)) :=
  match tokenize line with
  | .error e => .error (.refused (.lexical e))
  | .ok tokens =>
    if tokens = [] then .ok none
    else match stages tokens with
      | .error h => .error h
      | .ok l => (wired l).map some

/-! ## Commands -/

variable {tokens : List Token} {commands : List (List Item)} {items : List Item}
  {last index : Nat} {l : List Stage}

/-- The scan makes no misstep, whatever it is given. -/
theorem scan_items (s : Segment) (items : List Item) :
    scan s (items.map .item) = (s.scan items).mapError .refused := by
  fun_induction Segment.scan s items with
  | case1 s => rfl
  | case2 s w rest ih =>
      rw [List.map_cons, scan]
      exact ih
  | case3 s r path rest e he =>
      rw [List.map_cons, List.map_cons, scan, he]
      rfl
  | case4 s r path rest s' hs ih =>
      rw [List.map_cons, List.map_cons, scan, hs]
      exact ih
  | case5 s r rest hword =>
      rcases rest with _ | ⟨_ | _, rest⟩
      · rfl
      · exact absurd rfl (hword _ _)
      · rfl

theorem read_items (items : List Item) :
    read (items.map .item) = (Segment.read items).mapError .refused := by
  rw [read, scan_items, Segment.read]
  rcases Segment.scan {} items with e | s
  · rfl
  · by_cases hempty : s.words.isEmpty
    · simp [Except.mapError, hempty]
    · simp [Except.mapError, hempty]

theorem outputOf_last (s : Segment) : outputOf s true = .ok s.lastOutput := by
  unfold outputOf Segment.lastOutput
  rcases s.output with _ | ⟨mode, path⟩ <;> rfl

theorem stageOf_last (last : Nat) (items : List Item) :
    stageOf last last (items.map .item) =
      ((Segment.read items).map Segment.lastStage).mapError .refused := by
  rw [stageOf, read_items, beq_self_eq_true]
  rcases Segment.read items with e | s
  · rfl
  · simp only [Except.mapError, Except.map, outputOf_last]
    rfl

theorem stageOf_before (hne : index ≠ last) (items : List Item) :
    stageOf last index (items.map .item) =
      ((Segment.read items).bind Segment.pipedStage).mapError .refused := by
  rw [stageOf, read_items, beq_eq_false_iff_ne.mpr hne]
  rcases Segment.read items with e | s
  · rfl
  · simp only [Except.mapError, Except.bind, Segment.pipedStage, outputOf]
    rcases s.output with _ | ⟨mode, path⟩ <;> rfl

/-- The stages are read as the commands that they describe, if their positions are those that are
counted. -/
theorem stagesFrom_items (hcount : index + commands.length = last + 1) :
    stagesFrom last index (commands.map (List.map .item)) =
      (readStages commands).mapError .refused := by
  induction commands generalizing index with
  | nil => rfl
  | cons items commands ih =>
      cases commands with
      | nil =>
          obtain rfl : index = last := by simpa using hcount
          rw [List.map_cons, stagesFrom, stageOf_last, readStages]
          rcases Segment.read items with e | s <;> rfl
      | cons next rest =>
          have hne : index ≠ last := by
            simp only [List.length_cons] at hcount
            omega
          have hnext : index + 1 + (next :: rest).length = last + 1 := by
            simp only [List.length_cons] at hcount ⊢
            omega
          rw [List.map_cons, stagesFrom, stageOf_before hne, ih hnext, readStages]
          rcases (Segment.read items).bind Segment.pipedStage with e | stage
          · rfl
          · rcases readStages (next :: rest) with e | more <;> rfl

/-! ## Lines -/

theorem pipe_not_mem_items (items : List Item) : Token.pipe ∉ items.map .item := by
  simp

/-- Splitting at the pipes leaves the commands, none of which holds a pipe. -/
theorem splitOn_pipe (tokens : List Token) :
    tokens.splitOn .pipe = (segments tokens).map (List.map .item) := by
  have hpipes : ∀ command ∈ (segments tokens).map (List.map Token.item), .pipe ∉ command := by
    intro command hcommand
    obtain ⟨items, -, rfl⟩ := List.mem_map.mp hcommand
    exact pipe_not_mem_items items
  have hne : (segments tokens).map (List.map Token.item) ≠ [] := by
    simpa using segments_ne_nil tokens
  have hsplit := List.splitOn_intercalate Token.pipe hpipes hne
  rwa [Grammar.intercalate_segments] at hsplit

/-- Tokens are read without a misstep, with the result of the parser. -/
theorem stages_eq (tokens : List Token) :
    stages tokens = (readStages (segments tokens)).mapError .refused := by
  have hpos := List.length_pos_iff.mpr (segments_ne_nil tokens)
  have hempty : ((segments tokens).map (List.map Token.item)).isEmpty = false := by
    simpa using segments_ne_nil tokens
  rw [stages, splitOn_pipe, lastPosition, hempty]
  apply stagesFrom_items
  rw [List.length_map]
  omega

theorem wired_eq (h : WellWired l) : wired l = .ok l := by
  have hofStages : Pipeline.ofStages l = .ok ⟨l, h⟩ := Pipeline.ofStages_eq_ok_iff.mpr rfl
  rw [wired, hofStages]

/-- Reading a line with every step checked makes no misstep. -/
theorem parse_eq (line : String) :
    parse line
      = ((ShellPipeline.parse line).map (Option.map Pipeline.stages)).mapError .refused := by
  rcases htokens : tokenize line with e | tokens
  · rw [parse, htokens, ShellPipeline.parse, htokens]
    rfl
  · rw [parse, htokens]
    rcases parse_cases htokens with ⟨rfl, hparse⟩ | ⟨hne, ⟨e, hread, hparse⟩ | ⟨p, hread, hparse⟩⟩
    · rw [hparse]
      rfl
    · simp only [if_neg hne, stages_eq, hread, hparse]
      rfl
    · simp only [if_neg hne, stages_eq, hread, hparse, Except.mapError, wired_eq p.wellWired]
      rfl

end Checked

end ShellPipeline
