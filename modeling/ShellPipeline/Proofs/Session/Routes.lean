import ShellPipeline.Proofs.Line.Junction
import ShellPipeline.Session.Dispatch

/-!
# The ways a line can go

A line is read, looked at and carried out in one of five ways, and what the others would do is not
done. A builtin is called only for a line that consists of words. That its pipeline is plain says
the same: each operator of a line adds a stage or gives one a file.
-/

namespace ShellPipeline

variable {tokens : List Token} {words : List String} {p : Pipeline}

def wordTokens (words : List String) : List Token :=
  words.map fun w => .item (.word w)

def HasOperator (tokens : List Token) : Prop :=
  .pipe ∈ tokens ∨ ∃ r, .item (.redirect r) ∈ tokens

/-! ## Lines of words -/

/-- Tokens are words only, or there is an operator among them. -/
theorem words_or_operator (tokens : List Token) :
    (∃ words, tokens = wordTokens words) ∨ HasOperator tokens := by
  induction tokens with
  | nil => exact Or.inl ⟨[], rfl⟩
  | cons token tokens ih =>
      rcases token with (w | r) | _
      · rcases ih with ⟨words, rfl⟩ | hpipe | ⟨r, hr⟩
        · exact Or.inl ⟨w :: words, rfl⟩
        · exact Or.inr (Or.inl (List.mem_cons_of_mem _ hpipe))
        · exact Or.inr (Or.inr ⟨r, List.mem_cons_of_mem _ hr⟩)
      · exact Or.inr (Or.inr ⟨r, List.mem_cons_self⟩)
      · exact Or.inr (Or.inl List.mem_cons_self)

theorem scan_words (s : Segment) (words : List String) :
    s.scan (words.map .word) = .ok { s with words := s.words ++ words.toArray } := by
  induction words generalizing s with
  | nil => simp [Segment.scan]
  | cons w words ih =>
      rw [List.map_cons, Segment.scan, ih]
      simp

/-- A line of words is one stage with these words and no files. -/
theorem readStages_wordTokens (hwords : words ≠ []) :
    readStages (segments (wordTokens words)) = .ok [Stage.ofArgv words] := by
  have hsegments : segments (wordTokens words) = [words.map .word] := by
    rw [← segments_map_item, List.map_map]
    rfl
  have hread : Segment.read (words.map .word) = .ok { words := words.toArray } := by
    simp [Segment.read, scan_words, hwords]
  rw [hsegments, readStages, hread]
  rfl

theorem length_segments_pos_of_pipe (h : .pipe ∈ tokens) : 1 < (segments tokens).length := by
  obtain ⟨before, after, rfl⟩ := List.append_of_mem h
  rw [segments_append, List.length_append]
  have hbefore := List.length_pos_iff.mpr (segments_ne_nil before)
  have hafter := List.length_pos_iff.mpr (segments_ne_nil after)
  omega

/-- A stage is given a file by each redirection of its command. -/
theorem redirected_of_redirect {items : List Item} {stage : Stage} {last : Prop} {r : Redirect}
    (hformed : Grammar.WellFormed last items) (hdescribes : Grammar.Describes last items stage)
    (hlast : last) (hr : .redirect r ∈ items) : stage.redirected = true := by
  obtain ⟨i, hi⟩ := List.getElem?_of_mem hr
  obtain ⟨path, htakes⟩ := hformed.targeted i r hi
  cases r with
  | input =>
      have hinput := (hdescribes.input path).mpr ⟨i, htakes⟩
      simp [Stage.redirected, hinput]
  | output mode =>
      have houtput := (hdescribes.output hlast mode path).mpr ⟨i, htakes⟩
      simp [Stage.redirected, houtput, Output.target?]

theorem accepts_of_readStages {commands : List (List Item)} {stages : List Stage}
    (h : readStages commands = .ok stages) : Grammar.Accepts commands stages := by
  rcases Grammar.readStages_cases commands with ⟨stages', hstages, haccepts⟩ | ⟨e, he, -⟩
  · obtain rfl : stages' = stages := Except.ok.inj (hstages.symm.trans h)
    exact haccepts
  · cases he.symm.trans h

/-- The pipeline of a line with an operator is no plain command. -/
theorem not_isPlain_of_operator (hread : readStages (segments tokens) = .ok p.stages)
    (h : HasOperator tokens) : p.isPlain = false := by
  obtain ⟨hlength, haccepts⟩ := accepts_of_readStages hread
  by_cases hone : (segments tokens).length ≤ 1
  · have hpipe : .pipe ∉ tokens := fun hmem =>
      Nat.not_lt_of_le hone (length_segments_pos_of_pipe hmem)
    obtain ⟨r, hr⟩ := h.resolve_left hpipe
    obtain ⟨items, hsegments⟩ : ∃ items, segments tokens = [items] := by
      have hpos := List.length_pos_iff.mpr (segments_ne_nil tokens)
      exact List.length_eq_one_iff.mp (by omega)
    have htokens := Grammar.intercalate_segments tokens
    rw [hsegments] at htokens haccepts
    obtain ⟨hformed, stage, hstage, hdescribes⟩ := haccepts 0 items rfl
    have hmem : .redirect r ∈ items := by
      simpa [← htokens] using hr
    have hredirected := redirected_of_redirect hformed hdescribes rfl hmem
    have hany : p.redirected = true :=
      List.any_eq_true.mpr ⟨stage, List.mem_of_getElem? hstage, hredirected⟩
    simp [Pipeline.isPlain, hany]
  · have hlong : ¬ p.length ≤ 1 := by rwa [Pipeline.length, hlength]
    simp [Pipeline.isPlain, hlong]

/-- A line is a plain command exactly if it consists of words, which are then the words of the
command. -/
theorem plain_or_operator (hread : readStages (segments tokens) = .ok p.stages) :
    (∃ words, tokens = wordTokens words ∧ p.isPlain = true ∧ p.first.argv = words) ∨
      HasOperator tokens ∧ p.isPlain = false := by
  rcases words_or_operator tokens with ⟨words, rfl⟩ | hoperator
  · have hwords : words ≠ [] := by
      rintro rfl
      cases hread
    have hstages : p.stages = [Stage.ofArgv words] :=
      Except.ok.inj (hread.symm.trans (readStages_wordTokens hwords))
    refine Or.inl ⟨words, rfl, ?_, ?_⟩
    · simp [Pipeline.isPlain, Pipeline.length, Pipeline.redirected, hstages, Stage.redirected,
        Stage.ofArgv, Output.target?]
    · simp [Pipeline.first, hstages, Stage.ofArgv]
  · exact Or.inr ⟨hoperator, not_isPlain_of_operator hread hoperator⟩

/-! ## Carrying out a line -/

namespace Session

variable {σ α η : Type}

/-- From one session to the other the shell has not opened, started or awaited anything, and
nothing was remembered or recorded. -/
structure Idles (s t : Session σ α η) : Prop where
  events : t.shell.events = s.shell.events
  descriptors : t.shell.descriptors = s.shell.descriptors
  history : t.history = s.history
  calls : t.calls = s.calls

theorem idles_mapHost (s : Session σ α η) (f : σ → σ) : s.Idles (s.mapHost f) :=
  ⟨rfl, rfl, rfl, rfl⟩

variable [Host σ α η] [Console σ]

omit [Host σ α η] in
theorem complainInvalid_eq (s : Session σ α η) (e : ParseError) :
    s.complainInvalid e = (⟨-1, false⟩,
      s.mapHost (Console.report ("pipesh: input parse error: " ++ e.message ++ "\n"))) := by
  have htext : "pipesh: " ++ ("input parse error: " ++ e.message) ++ "\n" =
      "pipesh: input parse error: " ++ e.message ++ "\n" := by
    rw [← String.append_assoc]
    rfl
  rw [complainInvalid, complain, htext]
  rfl

theorem follow_misused (last : Status) (s : Session σ α η) (name : String) :
    s.follow last (.misused name) = (⟨-1, false⟩, s.mapHost (Console.report
      ("pipesh: " ++ name ++ ": builtins cannot be piped or redirected\n"))) := by
  have htext : "pipesh: " ++ (name ++ ": builtins cannot be piped or redirected") ++ "\n" =
      "pipesh: " ++ name ++ ": builtins cannot be piped or redirected\n" := by
    rw [← String.append_assoc, String.append_assoc]
    rfl
  rw [follow, complain, htext]
  rfl

/-- The status of a run is that of the line. A run that fails is complained about. -/
theorem runPipeline_cases (s : Session σ α η) (p : Pipeline) :
    (∃ status, (s.shell.run p).1 = .ok status ∧
        s.runPipeline p = (⟨status, false⟩, { s with shell := (s.shell.run p).2 })) ∨
      ∃ f, (s.shell.run p).1 = .error f ∧
        s.runPipeline p =
          (⟨-1, false⟩, { s with shell := (s.shell.run p).2 }.mapHost
            (Console.report ("pipesh: " ++ f.message ++ "\n"))) := by
  rcases hrun : s.shell.run p with ⟨f | status, shell⟩
  · exact Or.inr ⟨f, rfl, by rw [runPipeline, hrun]; rfl⟩
  · exact Or.inl ⟨status, rfl, by rw [runPipeline, hrun]⟩

/-- A pipeline goes to the first builtin of its name if it is plain, is refused if it is not, and is
run if there is no such builtin. -/
theorem follow_routePipeline (r : Registry (Session σ α η)) (last : Status) (s : Session σ α η)
    (hread : readStages (segments tokens) = .ok p.stages) :
    (∃ before h after words, r.entries = before ++ (p.first.program, h) :: after ∧
        p.first.program ∉ before.map Prod.fst ∧ tokens = wordTokens words ∧
        s.follow last (r.routePipeline p) = h words last false s) ∨
      (p.first.program ∈ r.names ∧ HasOperator tokens ∧
        s.follow last (r.routePipeline p) = (⟨-1, false⟩, s.mapHost (Console.report
          ("pipesh: " ++ p.first.program ++ ": builtins cannot be piped or redirected\n")))) ∨
      p.first.program ∉ r.names ∧ s.follow last (r.routePipeline p) = s.runPipeline p := by
  rcases hlookup : r.lookup p.first.program with _ | h
  · refine Or.inr (Or.inr ⟨Registry.lookup_eq_none_iff.mp hlookup, ?_⟩)
    simp only [Registry.routePipeline, hlookup, follow]
  · obtain ⟨before, after, hentries, hbefore⟩ := Registry.lookup_eq_some_iff.mp hlookup
    rcases plain_or_operator hread with ⟨words, htokens, hplain, hargv⟩ | ⟨hoperator, hplain⟩
    · refine Or.inl ⟨before, h, after, words, hentries, hbefore, htokens, ?_⟩
      simp only [Registry.routePipeline, hlookup, hplain, if_true, follow, hargv]
    · refine Or.inr (Or.inl ⟨?_, hoperator, ?_⟩)
      · simp [Registry.names, hentries]
      · have hroute : r.routePipeline p = .misused p.first.program := by
          simp only [Registry.routePipeline, hlookup, hplain, Bool.false_eq_true, if_false]
        rw [hroute, follow_misused]

/-- A line goes exactly one way. A line that cannot be read is complained about, and so is one that
pipes or redirects a builtin; a blank line changes nothing; in none of these cases does the shell do
anything. A line of words whose first word is the name of a builtin is handed to the first builtin
of this name. Every other line is run as a pipeline, once, and complained about if it cannot be
run. -/
theorem dispatch_routes (r : Registry (Session σ α η)) (line : String) (last : Status)
    (s : Session σ α η) :
    (∃ e, parse line = .error e ∧
        dispatch r line last s =
          (⟨-1, false⟩, s.mapHost (Console.report
            ("pipesh: input parse error: " ++ e.message ++ "\n"))) ∧
        s.Idles (dispatch r line last s).2) ∨
      (parse line = .ok none ∧ isBlankText line = true ∧
        dispatch r line last s = (⟨last, false⟩, s)) ∨
      ∃ p tokens, parse line = .ok (some p) ∧ tokenize line = .ok tokens ∧
        ((∃ before h after words, r.entries = before ++ (p.first.program, h) :: after ∧
            p.first.program ∉ before.map Prod.fst ∧ tokens = wordTokens words ∧
            dispatch r line last s = h words last false s) ∨
          (p.first.program ∈ r.names ∧ HasOperator tokens ∧
            dispatch r line last s = (⟨-1, false⟩, s.mapHost (Console.report
              ("pipesh: " ++ p.first.program ++ ": builtins cannot be piped or redirected\n"))) ∧
            s.Idles (dispatch r line last s).2) ∨
          p.first.program ∉ r.names ∧
            ((∃ status, (s.shell.run p).1 = .ok status ∧
                dispatch r line last s =
                  (⟨status, false⟩, { s with shell := (s.shell.run p).2 })) ∨
              ∃ f, (s.shell.run p).1 = .error f ∧
                dispatch r line last s =
                  (⟨-1, false⟩, { s with shell := (s.shell.run p).2 }.mapHost
                    (Console.report ("pipesh: " ++ f.message ++ "\n"))))) := by
  rcases htokens : tokenize line with e | tokens
  · have hparse : parse line = .error (.lexical e) := by rw [parse, htokens]
    refine Or.inl ⟨.lexical e, hparse, ?_⟩
    have hdispatch : dispatch r line last s = s.complainInvalid (.lexical e) := by
      rw [dispatch, Registry.route, hparse]
      rfl
    rw [hdispatch, complainInvalid_eq]
    exact ⟨rfl, s.idles_mapHost _⟩
  · rcases parse_cases htokens with ⟨rfl, hparse⟩ | ⟨-, ⟨e, -, hparse⟩ | ⟨p, hread, hparse⟩⟩
    · refine Or.inr (Or.inl ⟨hparse, tokenize_eq_nil_iff.mp htokens, ?_⟩)
      rw [dispatch, Registry.route, hparse]
      rfl
    · refine Or.inl ⟨e, hparse, ?_⟩
      have hdispatch : dispatch r line last s = s.complainInvalid e := by
        rw [dispatch, Registry.route, hparse]
        rfl
      rw [hdispatch, complainInvalid_eq]
      exact ⟨rfl, s.idles_mapHost _⟩
    · refine Or.inr (Or.inr ⟨p, tokens, hparse, rfl, ?_⟩)
      have hroute : dispatch r line last s = s.follow last (r.routePipeline p) := by
        rw [dispatch, Registry.route, hparse]
      rw [hroute]
      rcases follow_routePipeline r last s hread with hcall | ⟨hname, hoperator, hfollow⟩ |
        ⟨hname, hfollow⟩
      · exact Or.inl hcall
      · refine Or.inr (Or.inl ⟨hname, hoperator, hfollow, ?_⟩)
        rw [hfollow]
        exact s.idles_mapHost _
      · refine Or.inr (Or.inr ⟨hname, ?_⟩)
        rw [hfollow]
        exact s.runPipeline_cases p

end Session

end ShellPipeline
