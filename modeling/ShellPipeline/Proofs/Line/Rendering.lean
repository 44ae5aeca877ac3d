import Mathlib.Data.List.Forall2
import ShellPipeline.Proofs.Line.Lexeme
import ShellPipeline.Proofs.Line.Parse

/-!
# Writing a pipeline down

A pipeline is written as its commands with `|` between them, and a command as a sequence of clauses,
which are the words of the command and its redirections. The redirections may stand anywhere among
the words. Each word is quoted in one of three ways, and white space is free except that two words
next to each other are kept apart. However a pipeline is written, it is read back unchanged.

The writing is a division into lexemes, so the lexical grammar says what its tokens are. The scan of
a command then takes in each clause as it was meant.
-/

namespace ShellPipeline

/-! ## Writing -/

/-- Between single quotes a single quote closes them, is escaped, and opens them again. -/
def singleQuoted (c : Char) : List Char :=
  if c = '\'' then ['\'', '\\', '\'', '\''] else [c]

def doubleQuoted (c : Char) : List Char :=
  if c = '"' ∨ c = '\\' then ['\\', c] else [c]

/-- A text is a way to write a word. -/
inductive Quoted (w : String) : List Char → Prop
  | single : Quoted w ('\'' :: w.toList.flatMap singleQuoted ++ ['\''])
  | double : Quoted w ('"' :: w.toList.flatMap doubleQuoted ++ ['"'])
  | escaped (nonempty : w ≠ "") : Quoted w (w.toList.flatMap fun c => ['\\', c])

/-- A part of a command as it is written. -/
inductive Clause where
  | word (w : String)
  | redirection (r : Redirect) (path : String)
deriving DecidableEq, Repr

namespace Clause

def word? : Clause → Option String
  | word w => some w
  | redirection _ _ => none

def redirection? : Clause → Option (Redirect × String)
  | word _ => none
  | redirection r path => some (r, path)

def items : Clause → List Item
  | word w => [.word w]
  | redirection r path => [.redirect r, .word path]

end Clause

def clauseItems (clauses : List Clause) : List Item :=
  clauses.flatMap Clause.items

def Stage.redirections (s : Stage) : List (Redirect × String) :=
  (s.input.map fun path => (.input, path)).toList ++
    (s.output.file?.map fun q => (.output q.1, q.2)).toList

/-- The clauses are those of a stage: its words in order and its redirections in any order, anywhere
among the words. -/
structure Arranged (s : Stage) (clauses : List Clause) : Prop where
  words : clauses.filterMap Clause.word? = s.argv
  redirections : (clauses.filterMap Clause.redirection?).Perm s.redirections

def IsGap (cs : List Char) : Prop :=
  ∀ c ∈ cs, isBlank c = true

/-- If a word is the next clause, white space comes before it. -/
def KeptApart (clauses : List Clause) (text : List Char) : Prop :=
  (∃ w, clauses.head? = some (.word w)) → ∃ c, text.head? = some c ∧ isBlank c = true

/-- A text is a way to write clauses. There may be white space before every clause, after the
operator of a redirection, and at the end. A word is kept apart from the word before it. -/
inductive Spells : List Clause → List Char → Prop
  | nil {gap : List Char} (blank : IsGap gap) : Spells [] gap
  | word {w : String} {clauses : List Clause} {gap text rest : List Char} (blank : IsGap gap)
      (written : Quoted w text) (spells : Spells clauses rest)
      (apart : KeptApart clauses rest) :
      Spells (.word w :: clauses) (gap ++ text ++ rest)
  | redirection {r : Redirect} {path : String} {clauses : List Clause}
      {gap gap' text rest : List Char} (blank : IsGap gap) (blank' : IsGap gap')
      (written : Quoted path text) (spells : Spells clauses rest)
      (apart : KeptApart clauses rest) :
      Spells (.redirection r path :: clauses) (gap ++ r.symbol.toList ++ gap' ++ text ++ rest)

def WritesStage (s : Stage) (text : List Char) : Prop :=
  ∃ clauses, Arranged s clauses ∧ Spells clauses text

/-- A line is a way to write stages, with `|` between them. -/
def Renders (stages : List Stage) (line : String) : Prop :=
  ∃ texts, List.Forall₂ WritesStage stages texts ∧ line.toList = ['|'].intercalate texts

/-! ## What is written is divided into lexemes -/

theorem exists_pieces_single (cs : List Char) :
    ∃ (q : List Char) (hq : '\'' ∉ q) (ps : List Piece),
      (Piece.single q hq :: ps).flatMap Piece.text = '\'' :: cs.flatMap singleQuoted ++ ['\''] ∧
      (Piece.single q hq :: ps).flatMap Piece.meaning = cs := by
  induction cs with
  | nil => exact ⟨[], by simp, [], rfl, rfl⟩
  | cons c cs ih =>
      obtain ⟨q, hq, ps, htext, hmeaning⟩ := ih
      by_cases hc : c = '\''
      · refine ⟨[], by simp, .escaped '\'' :: .single q hq :: ps, ?_, ?_⟩
        · rw [List.flatMap_cons, List.flatMap_cons, htext]
          simp [Piece.text, singleQuoted, hc]
        · rw [List.flatMap_cons, List.flatMap_cons, hmeaning]
          simp [Piece.meaning, hc]
      · refine ⟨c :: q, by simp [Ne.symm hc, hq], ps, ?_, ?_⟩
        · simpa [Piece.text, singleQuoted, hc] using htext
        · simpa [Piece.meaning] using hmeaning

theorem exists_items_double (cs : List Char) :
    ∃ items : List DoubleItem,
      items.flatMap DoubleItem.text = cs.flatMap doubleQuoted ∧
      items.flatMap DoubleItem.meaning = cs := by
  induction cs with
  | nil => exact ⟨[], rfl, rfl⟩
  | cons c cs ih =>
      obtain ⟨items, htext, hmeaning⟩ := ih
      by_cases hc : c = '"' ∨ c = '\\'
      · refine ⟨.escaped c :: items, ?_, ?_⟩
        · simp [DoubleItem.text, doubleQuoted, hc, htext]
        · simp [DoubleItem.meaning, hc, hmeaning]
      · refine ⟨.plain c (not_or.mp hc) :: items, ?_, ?_⟩
        · simp [DoubleItem.text, doubleQuoted, hc, htext]
        · simp [DoubleItem.meaning, hmeaning]

/-- However a word is quoted, it consists of pieces that mean the word. -/
theorem Quoted.exists_pieces {w : String} {text : List Char} (h : Quoted w text) :
    ∃ ps : List Piece, ps ≠ [] ∧ ps.flatMap Piece.text = text ∧
      String.ofList (ps.flatMap Piece.meaning) = w := by
  cases h with
  | single =>
      obtain ⟨q, hq, ps, htext, hmeaning⟩ := exists_pieces_single w.toList
      exact ⟨_, List.cons_ne_nil _ _, htext, by rw [hmeaning, String.ofList_toList]⟩
  | double =>
      obtain ⟨items, htext, hmeaning⟩ := exists_items_double w.toList
      refine ⟨[.double items], List.cons_ne_nil _ _, ?_, ?_⟩
      · simp [Piece.text, htext]
      · simp [Piece.meaning, hmeaning]
  | escaped nonempty =>
      refine ⟨w.toList.map .escaped, ?_, ?_, ?_⟩
      · simpa using nonempty
      · simp [List.flatMap_map, Piece.text]
      · simp [List.flatMap_map, Piece.meaning]

theorem Divides.cons {x : Lexeme} {lexemes : List Lexeme} {line : List Char}
    {tokens : List Token} (h : Divides lexemes line tokens) (hx : ∀ y ∈ lexemes.head?, x.Apart y) :
    Divides (x :: lexemes) (x.text ++ line) (x.token?.toList ++ tokens) where
  apart := List.isChain_cons.mpr ⟨hx, h.apart⟩
  text := by rw [List.flatMap_cons, h.text]
  tokens := by
    rw [← h.tokens]
    cases hx : x.token? <;> simp [hx]

theorem Divides.gap {lexemes : List Lexeme} {gap line : List Char} {tokens : List Token}
    (h : Divides lexemes line tokens) (hgap : IsGap gap) :
    ∃ lexemes', Divides lexemes' (gap ++ line) tokens ∧
      (gap = [] ∧ lexemes' = lexemes ∨ ∃ c hc rest, lexemes' = .blank c hc :: rest) := by
  induction gap with
  | nil => exact ⟨lexemes, h, Or.inl ⟨rfl, rfl⟩⟩
  | cons c gap ih =>
      obtain ⟨hc, hrest⟩ := List.forall_mem_cons.mp hgap
      obtain ⟨lexemes', h', -⟩ := ih hrest
      exact ⟨_, h'.cons fun y _ => Lexeme.blank_apart hc y, Or.inr ⟨c, hc, lexemes', rfl⟩⟩

/-- A division begins with a word only if the clauses do, and the text without white space. -/
def BeginsAlike (lexemes : List Lexeme) (clauses : List Clause) (text : List Char) : Prop :=
  ∀ x ∈ lexemes.head?, x.isWord = true →
    (∃ w, clauses.head? = some (.word w)) ∧ ∀ c ∈ text.head?, isBlank c = false

theorem BeginsAlike.not_isWord {lexemes : List Lexeme} {clauses : List Clause} {text : List Char}
    (h : BeginsAlike lexemes clauses text) (apart : KeptApart clauses text) (x : Lexeme)
    (hx : x ∈ lexemes.head?) : x.isWord = false := by
  by_contra hword
  obtain ⟨hclauses, hblank⟩ := h x hx (by simpa using hword)
  obtain ⟨c, hc, hisBlank⟩ := apart hclauses
  exact absurd hisBlank (by simp [hblank c hc])

theorem Divides.word {lexemes : List Lexeme} {clauses : List Clause} {text rest : List Char}
    {tokens : List Token} {w : String} (h : Divides lexemes rest tokens)
    (hbegins : BeginsAlike lexemes clauses rest) (apart : KeptApart clauses rest)
    (written : Quoted w text) :
    ∃ (ps : List Piece) (hne : ps ≠ []),
      Divides (.word ps hne :: lexemes) (text ++ rest) (.item (.word w) :: tokens) ∧
      ∀ c ∈ (text ++ rest).head?, isBlank c = false := by
  obtain ⟨ps, hne, rfl, rfl⟩ := written.exists_pieces
  refine ⟨ps, hne, h.cons fun y hy => ⟨fun _ => hbegins.not_isWord apart y hy, by simp⟩, ?_⟩
  obtain ⟨p, ps, rfl⟩ := List.exists_cons_of_ne_nil hne
  obtain ⟨c, cs, hcs, -, hblank⟩ := p.text_eq_cons
  simp [hcs, hblank]

/-- Any way to write clauses is divided into lexemes that have the items of the clauses as
tokens. -/
theorem Spells.divides {clauses : List Clause} {text : List Char} (h : Spells clauses text) :
    ∃ lexemes, Divides lexemes text ((clauseItems clauses).map .item) ∧
      BeginsAlike lexemes clauses text := by
  have hempty : Divides [] [] [] := ⟨.nil, rfl, rfl⟩
  induction h with
  | nil blank =>
      obtain ⟨lexemes, hdivides, hfirst⟩ := hempty.gap blank
      refine ⟨lexemes, by simpa [clauseItems] using hdivides, ?_⟩
      rcases hfirst with ⟨-, rfl⟩ | ⟨c, hc, rest, rfl⟩
      · intro x hx
        cases hx
      · rintro x ⟨⟩ hword
        cases hword
  | @word w clauses gap text rest blank written _ apart ih =>
      obtain ⟨lexemes, hrest, hbegins⟩ := ih
      obtain ⟨ps, hne, hword, hhead⟩ := hrest.word hbegins apart written
      obtain ⟨lexemes', hdivides, hfirst⟩ := hword.gap blank
      refine ⟨lexemes', by simpa [clauseItems, Clause.items] using hdivides, ?_⟩
      rcases hfirst with ⟨rfl, rfl⟩ | ⟨c, hc, rest, rfl⟩
      · exact fun _ _ _ => ⟨⟨w, rfl⟩, hhead⟩
      · rintro x ⟨⟩ hword
        cases hword
  | @redirection r path clauses gap gap' text rest blank blank' written _ apart ih =>
      obtain ⟨lexemes, hrest, hbegins⟩ := ih
      obtain ⟨ps, hne, hword, -⟩ := hrest.word hbegins apart written
      obtain ⟨target, htarget, hfirst⟩ := hword.gap blank'
      -- what follows the operator is white space or a word, so no operator
      have hoperator : ∀ y ∈ target.head?, (Lexeme.redirect r).Apart y := by
        rcases hfirst with ⟨-, rfl⟩ | ⟨c, hc, more, rfl⟩
        · rintro y ⟨⟩
          exact ⟨by simp [Lexeme.isWord], by simp⟩
        · rintro y ⟨⟩
          exact Lexeme.apart_blank hc _
      obtain ⟨lexemes', hdivides, hfirst'⟩ := (htarget.cons hoperator).gap blank
      refine ⟨lexemes', ?_, ?_⟩
      · simpa [clauseItems, Clause.items, Lexeme.token?, Lexeme.text] using hdivides
      · rcases hfirst' with ⟨-, rfl⟩ | ⟨c, hc, more, rfl⟩ <;> rintro x ⟨⟩ hword <;> cases hword

theorem Divides.append {lexemes lexemes' : List Lexeme} {line line' : List Char}
    {tokens tokens' : List Token} (h : Divides lexemes line tokens)
    (h' : Divides lexemes' line' tokens')
    (hapart : ∀ x ∈ lexemes.getLast?, ∀ y ∈ lexemes'.head?, x.Apart y) :
    Divides (lexemes ++ lexemes') (line ++ line') (tokens ++ tokens') where
  apart := h.apart.append h'.apart hapart
  text := by rw [List.flatMap_append, h.text, h'.text]
  tokens := by rw [List.filterMap_append, h.tokens, h'.tokens]

theorem Divides.pipe {lexemes lexemes' : List Lexeme} {line line' : List Char}
    {tokens tokens' : List Token} (h : Divides lexemes line tokens)
    (h' : Divides lexemes' line' tokens') :
    Divides (lexemes ++ .pipe :: lexemes') (line ++ '|' :: line') (tokens ++ .pipe :: tokens') := by
  have hpipe := h'.cons (x := .pipe) fun y _ => ⟨by simp [Lexeme.isWord], by simp⟩
  refine h.append hpipe ?_
  rintro x - y ⟨⟩
  exact Lexeme.apart_pipe x

theorem derives_intercalate {texts : List (List Char)} {commands : List (List Clause)}
    (h : List.Forall₂ Spells commands texts) :
    ∃ lexemes, Divides lexemes (['|'].intercalate texts)
      ([Token.pipe].intercalate ((commands.map clauseItems).map (List.map .item))) := by
  induction h with
  | nil => exact ⟨[], .nil, rfl, rfl⟩
  | @cons clauses text commands texts hspells hrest ih =>
      obtain ⟨lexemes, hdivides, -⟩ := hspells.divides
      cases hrest with
      | nil => exact ⟨lexemes, by simpa using hdivides⟩
      | cons hnext hmore =>
          obtain ⟨lexemes', hdivides'⟩ := ih
          refine ⟨lexemes ++ .pipe :: lexemes', ?_⟩
          simp only [List.map_cons, List.intercalate_cons_cons, List.append_assoc]
          exact hdivides.pipe hdivides'

/-! ## What is written is read as it was meant -/

theorem segments_map_item (items : List Item) : segments (items.map .item) = [items] := by
  induction items with
  | nil => rfl
  | cons item items ih => rw [List.map_cons, segments, ih, List.modifyHead_cons]

theorem segments_append_pipe (items : List Item) (tokens : List Token) :
    segments (items.map .item ++ .pipe :: tokens) = items :: segments tokens := by
  induction items with
  | nil => rfl
  | cons item items ih =>
      rw [List.map_cons, List.cons_append, segments, ih, List.modifyHead_cons]

theorem segments_intercalate {commands : List (List Item)} (h : commands ≠ []) :
    segments ([Token.pipe].intercalate (commands.map (List.map .item))) = commands := by
  induction commands with
  | nil => exact absurd rfl h
  | cons items commands ih =>
      cases commands with
      | nil => simpa using segments_map_item items
      | cons next rest =>
          rw [List.map_cons, List.map_cons, List.intercalate_cons_cons, List.append_assoc,
            List.singleton_append, segments_append_pipe]
          exact congrArg (items :: ·) (ih (List.cons_ne_nil _ _))

def inputPath? : Redirect × String → Option String
  | (.input, path) => some path
  | (.output _, _) => none

def outputFile? : Redirect × String → Option (WriteMode × String)
  | (.input, _) => none
  | (.output mode, path) => some (mode, path)

theorem Stage.filterMap_inputPath?_redirections (s : Stage) :
    s.redirections.filterMap inputPath? = s.input.toList := by
  rcases hi : s.input with _ | path <;> rcases ho : s.output.file? with _ | ⟨mode, path'⟩ <;>
    simp [Stage.redirections, hi, ho, inputPath?, List.filterMap_cons]

theorem Stage.filterMap_outputFile?_redirections (s : Stage) :
    s.redirections.filterMap outputFile? = s.output.file?.toList := by
  rcases hi : s.input with _ | path <;> rcases ho : s.output.file? with _ | ⟨mode, path'⟩ <;>
    simp [Stage.redirections, hi, ho, outputFile?, List.filterMap_cons]

theorem eq_toList_of_perm {α : Type} {l : List α} {o : Option α} (h : l.Perm o.toList) :
    l = o.toList := by
  cases o with
  | none => exact List.perm_nil.mp h
  | some a => exact List.perm_singleton.mp h

theorem eq_none_of_toList_append {α : Type} {o o' : Option α} {a : α} {l : List α}
    (h : o.toList ++ a :: l = o'.toList) : o = none ∧ o' = some a ∧ l = [] := by
  cases o <;> cases o' <;> simp_all

/-- The scan of clauses takes in their words, and the one file of each kind that is redirected. -/
theorem scan_clauses (s : Segment) {clauses : List Clause} {input : Option String}
    {output : Option (WriteMode × String)}
    (hinput : s.input.toList ++ (clauses.filterMap Clause.redirection?).filterMap inputPath? =
      input.toList)
    (houtput : s.output.toList ++ (clauses.filterMap Clause.redirection?).filterMap outputFile? =
      output.toList) :
    s.scan (clauseItems clauses) =
      .ok ⟨s.words ++ (clauses.filterMap Clause.word?).toArray, input, output⟩ := by
  induction clauses generalizing s with
  | nil =>
      obtain rfl : s.input = input := by simpa using congrArg List.head? hinput
      obtain rfl : s.output = output := by simpa using congrArg List.head? houtput
      simp [clauseItems, Segment.scan]
  | cons clause clauses ih =>
      rw [clauseItems, List.flatMap_cons, ← clauseItems]
      rcases clause with w | ⟨_ | mode, path⟩
      · rw [Clause.items, List.singleton_append, Segment.scan,
          ih { s with words := s.words.push w } hinput houtput]
        simp [Clause.word?]
      · obtain ⟨hs, rfl, hmore⟩ := eq_none_of_toList_append hinput
        have hredirect : s.redirect path .input = .ok { s with input := some path } := by
          simp [Segment.redirect, hs]
        simp only [Clause.items, List.cons_append, List.nil_append, Segment.scan, hredirect]
        rw [ih { s with input := some path } (congrArg (path :: ·) hmore) houtput]
        rfl
      · obtain ⟨hs, rfl, hmore⟩ := eq_none_of_toList_append houtput
        have hredirect : s.redirect path (.output mode) =
            .ok { s with output := some (mode, path) } := by
          simp [Segment.redirect, hs]
        simp only [Clause.items, List.cons_append, List.nil_append, Segment.scan, hredirect]
        rw [ih { s with output := some (mode, path) } hinput (congrArg ((mode, path) :: ·) hmore)]
        rfl

/-- The order of the clauses does not matter to the scan. -/
theorem Arranged.read_eq {s : Stage} {clauses : List Clause} (h : Arranged s clauses)
    (hargv : s.argv ≠ []) :
    Segment.read (clauseItems clauses) =
      .ok ⟨s.argv.toArray, s.input, s.output.file?⟩ := by
  have hinput : (clauses.filterMap Clause.redirection?).filterMap inputPath? = s.input.toList := by
    apply eq_toList_of_perm
    rw [← s.filterMap_inputPath?_redirections]
    exact h.redirections.filterMap inputPath?
  have houtput : (clauses.filterMap Clause.redirection?).filterMap outputFile? =
      s.output.file?.toList := by
    apply eq_toList_of_perm
    rw [← s.filterMap_outputFile?_redirections]
    exact h.redirections.filterMap outputFile?
  have hscan := scan_clauses {} hinput houtput
  simp only [Segment.read, hscan, h.words]
  simp [hargv]

/-- Arranged in any way, stages that are well wired are read as they were. -/
theorem readStages_arranged {stages : List Stage} {commands : List (List Clause)}
    (h : List.Forall₂ Arranged stages commands) (hwired : WellWired stages) :
    readStages (commands.map clauseItems) = .ok stages := by
  induction h with
  | nil => exact hwired.elim
  | @cons s clauses stages commands harranged hrest ih =>
      cases hrest with
      | nil =>
          obtain ⟨hargv, houtput⟩ := hwired
          have hlast : Segment.lastStage ⟨s.argv.toArray, s.input, s.output.file?⟩ = s := by
            obtain ⟨argv, input, output⟩ := s
            cases output with
            | inherit => rfl
            | pipe => exact absurd rfl houtput
            | file mode path => rfl
          simp only [List.map_cons, List.map_nil, readStages, harranged.read_eq hargv]
          exact congrArg (fun s => Except.ok [s]) hlast
      | cons hnext hmore =>
          obtain ⟨⟨hargv, houtput⟩, hwired⟩ := hwired
          have hpiped : Segment.pipedStage ⟨s.argv.toArray, s.input, s.output.file?⟩ = .ok s := by
            obtain ⟨argv, input, output⟩ := s
            subst houtput
            rfl
          have hread := ih hwired
          rw [List.map_cons] at hread
          simp only [List.map_cons, readStages, harranged.read_eq hargv, Except.bind, hpiped, hread]
          rfl

theorem Pipeline.stages_of_ofStages {stages : List Stage} {p : Pipeline}
    (h : Pipeline.ofStages stages = .ok p) : p.stages = stages :=
  (Pipeline.ofStages_eq_ok_iff.mp h).symm

/-! ## Every pipeline can be written -/

theorem exists_spells (clauses : List Clause) : ∃ text, Spells clauses (' ' :: text) := by
  have hgap : IsGap [' '] := by
    intro c hc
    obtain rfl := List.mem_singleton.mp hc
    rfl
  have hnone : IsGap [] := List.forall_mem_nil _
  induction clauses with
  | nil => exact ⟨[], .nil hgap⟩
  | cons clause clauses ih =>
      obtain ⟨text, hspells⟩ := ih
      have hapart : KeptApart clauses (' ' :: text) := fun _ => ⟨' ', rfl, rfl⟩
      cases clause with
      | word w => exact ⟨_, .word hgap .single hspells hapart⟩
      | redirection r path => exact ⟨_, .redirection hgap hnone .single hspells hapart⟩

theorem exists_arranged (s : Stage) : ∃ clauses, Arranged s clauses := by
  refine ⟨s.argv.map .word ++ s.redirections.map fun q => .redirection q.1 q.2, ?_, ?_⟩
  · simp [List.filterMap_map, Function.comp_def, Clause.word?]
  · simp [List.filterMap_map, Function.comp_def, Clause.redirection?]

/-- All stages can be written. -/
theorem exists_renders (stages : List Stage) : ∃ line, Renders stages line := by
  have htexts : ∃ texts, List.Forall₂ WritesStage stages texts := by
    induction stages with
    | nil => exact ⟨[], .nil⟩
    | cons s stages ih =>
        obtain ⟨texts, htexts⟩ := ih
        obtain ⟨clauses, harranged⟩ := exists_arranged s
        obtain ⟨text, hspells⟩ := exists_spells clauses
        exact ⟨_ :: texts, .cons ⟨clauses, harranged, hspells⟩ htexts⟩
  obtain ⟨texts, htexts⟩ := htexts
  exact ⟨String.ofList (['|'].intercalate texts), texts, htexts, String.toList_ofList⟩

/-- A text for each stage comes from an arrangement of its clauses and a way to write them. -/
theorem exists_commands {stages : List Stage} {texts : List (List Char)}
    (h : List.Forall₂ WritesStage stages texts) :
    ∃ commands, List.Forall₂ Arranged stages commands ∧ List.Forall₂ Spells commands texts := by
  induction h with
  | nil => exact ⟨[], .nil, .nil⟩
  | cons hwrites _ ih =>
      obtain ⟨clauses, harranged, hspells⟩ := hwrites
      obtain ⟨commands, harrangeds, hspellss⟩ := ih
      exact ⟨clauses :: commands, .cons harranged harrangeds, .cons hspells hspellss⟩

/-- Every pipeline can be written down, and however it is written it is read back unchanged:
whichever quoting each word and each path has, wherever the redirections of a stage stand, and
whatever white space there is, as long as two words next to each other are kept apart. -/
theorem parse_rendering {stages : List Stage} {p : Pipeline}
    (h : Pipeline.ofStages stages = .ok p) :
    (∃ line, Renders stages line) ∧
      ∀ line, Renders stages line → parse line = .ok (some p) := by
  obtain rfl := Pipeline.stages_of_ofStages h
  refine ⟨exists_renders p.stages, ?_⟩
  rintro line ⟨texts, htexts, hline⟩
  obtain ⟨commands, harranged, hspells⟩ := exists_commands htexts
  obtain ⟨lexemes, hdivides⟩ := derives_intercalate hspells
  have hread := readStages_arranged harranged p.wellWired
  have hcommands : commands.map clauseItems ≠ [] := by
    intro hnil
    rw [hnil] at hread
    exact p.wellWired.ne_nil (Except.ok.inj hread).symm
  have hsegments := segments_intercalate hcommands
  generalize [Token.pipe].intercalate ((commands.map clauseItems).map (List.map .item)) = tokens
    at hdivides hsegments
  rw [← hline] at hdivides
  rw [← hsegments] at hread
  have htokens : tokenize line = .ok tokens := Derives.finish_eq ⟨lexemes, hdivides⟩
  have hne : tokens ≠ [] := by
    rintro rfl
    cases hread
  obtain ⟨q, hq, hstages⟩ := Grammar.parse_eq_ok htokens hne hread
  obtain rfl : q = p := by
    cases q
    cases p
    cases hstages
    rfl
  exact hq

/-- Words that look like syntax, quoted in every way, with a redirection before the words and no
white space that can be left out. -/
theorem parse_rendering_quoted :
    ∃ (stages : List Stage) (p : Pipeline) (line : String),
      stages = [{ argv := ["a b", ""], input := some "it's", output := .pipe },
        { argv := ["|>\\"], output := .file .append "\"" }] ∧
      line = "<'it'\\''s' \"a b\" ''|>>\"\\\"\" \\|\\>\\\\" ∧
      Pipeline.ofStages stages = .ok p ∧ Renders stages line ∧ parse line = .ok (some p) := by
  have hnone : IsGap [] := List.forall_mem_nil _
  have hgap : IsGap [' '] := by
    intro c hc
    obtain rfl := List.mem_singleton.mp hc
    rfl
  have hfirst : Spells [.redirection .input "it's", .word "a b", .word ""] _ :=
    .redirection hnone hnone .single
      (.word hgap .double (.word hgap .single (.nil hnone) (by simp [KeptApart]))
        fun _ => ⟨' ', rfl, rfl⟩)
      fun _ => ⟨' ', rfl, rfl⟩
  have hsecond : Spells [.redirection (.output .append) "\"", .word "|>\\"] _ :=
    .redirection hnone hnone .double
      (.word hgap (.escaped (by decide)) (.nil hnone) (by simp [KeptApart]))
      fun _ => ⟨' ', rfl, rfl⟩
  have hrenders : Renders [{ argv := ["a b", ""], input := some "it's", output := .pipe },
      { argv := ["|>\\"], output := .file .append "\"" }]
      "<'it'\\''s' \"a b\" ''|>>\"\\\"\" \\|\\>\\\\" :=
    ⟨_, .cons ⟨_, ⟨rfl, .refl _⟩, hfirst⟩ (.cons ⟨_, ⟨rfl, .refl _⟩, hsecond⟩ .nil), rfl⟩
  exact ⟨_, _, _, rfl, rfl, rfl, hrenders, (parse_rendering rfl).2 _ hrenders⟩

end ShellPipeline
