import ShellPipeline.Proofs.Line.Rendering

/-!
# Lines joined by a pipe

What two lines with `|` between them are read as, from what each of them is read as. At a pipe the
lexer is in the middle of nothing, so the tokens of both lines stay as they are. The commands of the
first line then come before those of the second, and only the last of the first line is read in
another way: it pipes onward, so its output must not go into a file.
-/

namespace ShellPipeline

variable {line line' gap gap' : List Char} {tokens tokens' : List Token}

/-! ## Tokens -/

theorem tokenize_eq_ok_iff {line : String} :
    tokenize line = .ok tokens ↔ Derives line.toList tokens := by
  refine ⟨fun h => ?_, fun h => h.finish_eq⟩
  rcases legible_or_hanging line.toList with ⟨tokens', h'⟩ | h' | h'
  · obtain rfl : tokens' = tokens := Except.ok.inj (h'.finish_eq.symm.trans h)
    exact h'
  · cases h'.finish_eq.symm.trans h
  · cases h'.finish_eq.symm.trans h

theorem isBlankText_iff {s : String} : isBlankText s = true ↔ IsGap s.toList :=
  List.all_eq_true

theorem derives_gap (hgap : IsGap gap) : Derives gap [] := by
  have hempty : Divides [] [] [] := ⟨.nil, rfl, rfl⟩
  obtain ⟨lexemes, hdivides, -⟩ := hempty.gap hgap
  exact ⟨lexemes, by simpa using hdivides⟩

theorem Derives.isGap (h : Derives line []) : IsGap line := by
  obtain ⟨lexemes, -, rfl, htokens⟩ := h
  intro c hc
  obtain ⟨x, hx, hcx⟩ := List.mem_flatMap.mp hc
  have hnone : x.token? = none := List.filterMap_eq_nil_iff.mp htokens x hx
  cases x with
  | blank d hd =>
      obtain rfl : c = d := List.mem_singleton.mp hcx
      exact hd
  | _ => cases hnone

/-- The lines without tokens are the blank ones. -/
theorem tokenize_eq_nil_iff {line : String} :
    tokenize line = .ok [] ↔ isBlankText line = true := by
  rw [tokenize_eq_ok_iff, isBlankText_iff]
  exact ⟨Derives.isGap, derives_gap⟩

/-- White space after a line changes no token. -/
theorem Derives.trail (h : Derives line tokens) (hgap : IsGap gap) :
    Derives (line ++ gap) tokens := by
  obtain ⟨lexemes, hdivides⟩ := h
  have hempty : Divides [] [] [] := ⟨.nil, rfl, rfl⟩
  obtain ⟨blanks, hblanks, hfirst⟩ := hempty.gap hgap
  refine ⟨lexemes ++ blanks, ?_⟩
  rw [← List.append_nil gap, ← List.append_nil tokens]
  refine hdivides.append hblanks ?_
  rintro x - y hy
  rcases hfirst with ⟨-, rfl⟩ | ⟨c, hc, rest, rfl⟩
  · cases hy
  · cases hy
    exact Lexeme.apart_blank hc x

theorem Derives.lead (h : Derives line tokens) (hgap : IsGap gap) :
    Derives (gap ++ line) tokens := by
  obtain ⟨lexemes, hdivides⟩ := h
  obtain ⟨lexemes', hdivides', -⟩ := hdivides.gap hgap
  exact ⟨lexemes', hdivides'⟩

/-- Lines with a pipe between them have their tokens with a pipe between these. -/
theorem Derives.pipe (h : Derives line tokens) (h' : Derives line' tokens') :
    Derives (line ++ '|' :: line') (tokens ++ .pipe :: tokens') := by
  obtain ⟨lexemes, hdivides⟩ := h
  obtain ⟨lexemes', hdivides'⟩ := h'
  exact ⟨_, hdivides.pipe hdivides'⟩

theorem HangingEscape.pipe (h : Derives line tokens) (h' : HangingEscape line') :
    HangingEscape (line ++ '|' :: line') := by
  obtain ⟨before, tokens', hbefore, rfl⟩ := h'
  exact ⟨_, _, h.pipe hbefore, by simp⟩

theorem HangingQuote.pipe (h : Derives line tokens) (h' : HangingQuote line') :
    HangingQuote (line ++ '|' :: line') := by
  obtain ⟨before, tokens', quote, hbefore, hquote, rfl⟩ := h'
  exact ⟨_, _, quote, h.pipe hbefore, hquote, by simp⟩

theorem HangingEscape.lead (h : HangingEscape line) (hgap : IsGap gap) :
    HangingEscape (gap ++ line) := by
  obtain ⟨before, tokens, hbefore, rfl⟩ := h
  exact ⟨_, _, hbefore.lead hgap, by simp⟩

theorem HangingQuote.lead (h : HangingQuote line) (hgap : IsGap gap) :
    HangingQuote (gap ++ line) := by
  obtain ⟨before, tokens, quote, hbefore, hquote, rfl⟩ := h
  exact ⟨_, _, quote, hbefore.lead hgap, hquote, by simp⟩

/-- The tokens of two lines stay as they are when a pipe comes between them, and so does the fault
of the second one. -/
theorem tokenize_pipe {a gap gap' : String} (b : String) (ha : tokenize a = .ok tokens)
    (hgap : isBlankText gap = true) (hgap' : isBlankText gap' = true) :
    tokenize (a ++ gap ++ "|" ++ gap' ++ b) =
      (tokenize b).map fun tokens' => tokens ++ .pipe :: tokens' := by
  have hleft := (tokenize_eq_ok_iff.mp ha).trail (isBlankText_iff.mp hgap)
  rw [isBlankText_iff] at hgap'
  have htext : (a ++ gap ++ "|" ++ gap' ++ b).toList =
      (a.toList ++ gap.toList) ++ '|' :: (gap'.toList ++ b.toList) := by
    simp
  rw [tokenize, tokenize, htext]
  rcases legible_or_hanging b.toList with ⟨tokens', hb⟩ | hb | hb
  · rw [hb.finish_eq, (hleft.pipe (hb.lead hgap')).finish_eq]
    rfl
  · rw [hb.finish_eq, ((hb.lead hgap').pipe hleft).finish_eq]
    rfl
  · rw [hb.finish_eq, ((hb.lead hgap').pipe hleft).finish_eq]
    rfl

/-! ## Commands -/

theorem segments_append (tokens tokens' : List Token) :
    segments (tokens ++ .pipe :: tokens') = segments tokens ++ segments tokens' := by
  induction tokens with
  | nil => rfl
  | cons token tokens ih =>
      cases token with
      | pipe => exact congrArg ([] :: ·) ih
      | item item =>
          obtain ⟨items, rest, hsegments⟩ := List.exists_cons_of_ne_nil (segments_ne_nil tokens)
          rw [List.cons_append, segments, segments, ih, hsegments]
          rfl

/-- The last command of a line pipes onward when more commands follow, unless its output goes into
a file. -/
theorem pipedStage_eq (s : Segment) :
    (∃ mode path, s.lastStage.output = .file mode path ∧
        s.pipedStage = .error .conflictingOutput) ∨
      s.lastStage.output = .inherit ∧ s.pipedStage = .ok (s.lastStage.withOutput .pipe) := by
  rcases hs : s.output with _ | ⟨mode, path⟩
  · refine Or.inr ⟨?_, ?_⟩
    · simp [Segment.lastStage, Segment.lastOutput, hs]
    · simp [Segment.pipedStage, Segment.lastStage, Stage.withOutput, hs]
  · refine Or.inl ⟨mode, path, ?_, ?_⟩
    · simp [Segment.lastStage, Segment.lastOutput, hs]
    · simp [Segment.pipedStage, hs]

/-- Commands that are followed by more are read as before, but for the last of them, which pipes
onward. -/
theorem readStages_append {commands more : List (List Item)} (hcommands : commands ≠ [])
    (hmore : more ≠ []) :
    (∃ e, readStages commands = .error e ∧ readStages (commands ++ more) = .error e) ∨
      ∃ before last, readStages commands = .ok (before ++ [last]) ∧
        ((∃ mode path, last.output = .file mode path ∧
            readStages (commands ++ more) = .error .conflictingOutput) ∨
          last.output = .inherit ∧
            readStages (commands ++ more) =
              (readStages more).map fun stages => before ++ last.withOutput .pipe :: stages) := by
  obtain ⟨next, rest, rfl⟩ := List.exists_cons_of_ne_nil hmore
  induction commands with
  | nil => exact absurd rfl hcommands
  | cons items commands ih =>
      cases commands with
      | nil =>
          rcases hread : Segment.read items with e | s
          · exact Or.inl ⟨e, by simp [readStages, hread, Except.map],
              by simp [readStages, hread, Except.bind]⟩
          · refine Or.inr ⟨[], s.lastStage, by simp [readStages, hread, Except.map], ?_⟩
            rcases pipedStage_eq s with ⟨mode, path, houtput, hpiped⟩ | ⟨houtput, hpiped⟩
            · exact Or.inl ⟨mode, path, houtput, by simp [readStages, hread, Except.bind, hpiped]⟩
            · exact Or.inr ⟨houtput, by simp [readStages, hread, Except.bind, hpiped]⟩
      | cons items' commands =>
          rcases hstage : (Segment.read items).bind Segment.pipedStage with e | stage
          · exact Or.inl ⟨e, by simp [readStages, hstage], by simp [readStages, hstage]⟩
          · have hcons : ∀ l, readStages (items :: items' :: l) =
                (readStages (items' :: l)).map (stage :: ·) := by
              intro l
              simp [readStages, hstage]
            simp only [List.cons_append] at ih ⊢
            rw [hcons, hcons]
            rcases ih (List.cons_ne_nil _ _) with
              ⟨e, hread, hall⟩ | ⟨before, last, hread, hlast⟩
            · exact Or.inl ⟨e, by rw [hread]; rfl, by rw [hall]; rfl⟩
            · refine Or.inr ⟨stage :: before, last, by rw [hread]; rfl, ?_⟩
              rcases hlast with ⟨mode, path, houtput, hall⟩ | ⟨houtput, hall⟩
              · exact Or.inl ⟨mode, path, houtput, by rw [hall]; rfl⟩
              · refine Or.inr ⟨houtput, ?_⟩
                rw [hall]
                cases readStages (next :: rest) <;> rfl

/-! ## Lines -/

/-- Nothing but its tokens matters about a line. -/
theorem parse_congr {line line' : String} (h : tokenize line = tokenize line') :
    parse line = parse line' := by
  unfold parse
  rw [h]

/-- A line with tokens is a pipeline, or the error is the one of its commands. -/
theorem parse_cases {line : String} (h : tokenize line = .ok tokens) :
    (tokens = [] ∧ parse line = .ok none) ∨
      tokens ≠ [] ∧
        ((∃ e, readStages (segments tokens) = .error e ∧ parse line = .error e) ∨
          ∃ p : Pipeline, readStages (segments tokens) = .ok p.stages ∧
            parse line = .ok (some p)) := by
  by_cases hnil : tokens = []
  · exact Or.inl ⟨hnil, by simp [parse, h, hnil]⟩
  · refine Or.inr ⟨hnil, ?_⟩
    rcases hread : readStages (segments tokens) with e | stages
    · exact Or.inl ⟨e, rfl, Grammar.parse_eq_error h hnil hread⟩
    · obtain ⟨p, hp, rfl⟩ := Grammar.parse_eq_ok h hnil hread
      exact Or.inr ⟨p, rfl, hp⟩

/-- Two lines are read when a pipe comes between them. First a fault of the second in its quoting
decides, then the error of the first. A blank line is no command on either side. If the output of
the last command of the first line goes into a file, it cannot go into the pipe. Then the error of
the second decides, and otherwise the stages of both lines are chained, the last of the first line
piping onward. White space on either side of the pipe makes no difference. -/
theorem parse_pipe {a gap gap' : String} {tokens : List Token} (b : String)
    (ha : tokenize a = .ok tokens) (hgap : isBlankText gap = true)
    (hgap' : isBlankText gap' = true) :
    parse (a ++ gap ++ "|" ++ gap' ++ b) = parse (a ++ "|" ++ b) ∧
    ((∃ e, tokenize b = .error e ∧ parse (a ++ "|" ++ b) = .error (.lexical e)) ∨
      ∃ tokens', tokenize b = .ok tokens' ∧
        ((∃ e, parse a = .error e ∧ parse (a ++ "|" ++ b) = .error e) ∨
          (isBlankText a = true ∧ parse a = .ok none ∧
            parse (a ++ "|" ++ b) = .error .emptyCommand) ∨
          ∃ p before last, parse a = .ok (some p) ∧ p.stages = before ++ [last] ∧
            ((∃ mode path, last.output = .file mode path ∧
                parse (a ++ "|" ++ b) = .error .conflictingOutput) ∨
              last.output = .inherit ∧
                ((isBlankText b = true ∧ parse b = .ok none ∧
                    parse (a ++ "|" ++ b) = .error .emptyCommand) ∨
                  (∃ e, parse b = .error e ∧ parse (a ++ "|" ++ b) = .error e) ∨
                  ∃ q r, parse b = .ok (some q) ∧ parse (a ++ "|" ++ b) = .ok (some r) ∧
                    r.stages = before ++ last.withOutput .pipe :: q.stages)))) := by
  have hline : tokenize (a ++ "|" ++ b) =
      (tokenize b).map fun tokens' => tokens ++ .pipe :: tokens' := by
    have hempty : isBlankText "" = true := rfl
    simpa using tokenize_pipe b ha hempty hempty
  refine ⟨?_, ?_⟩
  · have hspaced := tokenize_pipe b ha hgap hgap'
    exact parse_congr (hspaced.trans hline.symm)
  rcases hb : tokenize b with e | tokens' <;> rw [hb] at hline
  · exact Or.inl ⟨e, rfl, by simp [parse, hline, Except.map]⟩
  refine Or.inr ⟨tokens', rfl, ?_⟩
  have hne : tokens ++ .pipe :: tokens' ≠ [] := by simp
  have herror : ∀ e, readStages (segments tokens ++ segments tokens') = .error e →
      parse (a ++ "|" ++ b) = .error e := by
    intro e he
    rw [← segments_append] at he
    exact Grammar.parse_eq_error hline hne he
  rcases readStages_append (segments_ne_nil tokens) (segments_ne_nil tokens') with
    ⟨e, hread, hall⟩ | ⟨before, last, hread, hlast⟩
  · rcases parse_cases ha with ⟨rfl, hnone⟩ | ⟨-, ⟨e', hread', hparse⟩ | ⟨p, hread', -⟩⟩
    · obtain rfl : ParseError.emptyCommand = e := Except.error.inj hread
      exact Or.inr (Or.inl ⟨tokenize_eq_nil_iff.mp ha, hnone, herror _ hall⟩)
    · obtain rfl : e' = e := Except.error.inj (hread'.symm.trans hread)
      exact Or.inl ⟨e', hparse, herror e' hall⟩
    · cases hread'.symm.trans hread
  · rcases parse_cases ha with ⟨rfl, -⟩ | ⟨-, ⟨e', hread', -⟩ | ⟨p, hread', hparse⟩⟩
    · cases hread
    · cases hread'.symm.trans hread
    · have hstages : p.stages = before ++ [last] := Except.ok.inj (hread'.symm.trans hread)
      refine Or.inr (Or.inr ⟨p, before, last, hparse, hstages, ?_⟩)
      rcases hlast with ⟨mode, path, houtput, hall⟩ | ⟨houtput, hall⟩
      · exact Or.inl ⟨mode, path, houtput, herror _ hall⟩
      refine Or.inr ⟨houtput, ?_⟩
      rcases parse_cases hb with ⟨rfl, hnone⟩ | ⟨-, ⟨e, hread', hparse'⟩ | ⟨q, hread', hparse'⟩⟩
      · exact Or.inl ⟨tokenize_eq_nil_iff.mp hb, hnone, herror _ hall⟩
      · rw [hread'] at hall
        exact Or.inr (Or.inl ⟨e, hparse', herror e hall⟩)
      · rw [hread', ← segments_append] at hall
        obtain ⟨r, hr, hstages'⟩ := Grammar.parse_eq_ok hline hne hall
        exact Or.inr (Or.inr ⟨q, r, hparse', hr, hstages'⟩)

/-- A word that looks like a pipe is before the pipe, and an appending redirection is after it. -/
theorem parse_pipe_quoted :
    ∃ (p q r : Pipeline) (tokens : List Token),
      tokenize "grep 'a|b'<in" = .ok tokens ∧ isBlankText " " = true ∧ isBlankText "\t" = true ∧
      parse "grep 'a|b'<in" = .ok (some p) ∧ parse "wc -l>>out" = .ok (some q) ∧
      parse ("grep 'a|b'<in" ++ " " ++ "|" ++ "\t" ++ "wc -l>>out") = .ok (some r) ∧
      r.stages =
        [{ argv := ["grep", "a|b"], input := some "in", output := .pipe },
          { argv := ["wc", "-l"], output := .file .append "out" }] := by
  let p : Pipeline := ⟨[{ argv := ["grep", "a|b"], input := some "in" }], by decide⟩
  let q : Pipeline := ⟨[{ argv := ["wc", "-l"], output := .file .append "out" }], by decide⟩
  have hp : parse "grep 'a|b'<in" = .ok (some p) := rfl
  have hq : parse "wc -l>>out" = .ok (some q) := rfl
  have htokens : tokenize "grep 'a|b'<in" = .ok
      [.item (.word "grep"), .item (.word "a|b"), .item (.redirect .input), .item (.word "in")] :=
    rfl
  have hgap : isBlankText " " = true := rfl
  have hgap' : isBlankText "\t" = true := rfl
  obtain ⟨hline, hjoined⟩ := parse_pipe "wc -l>>out" htokens hgap hgap'
  rcases hjoined with ⟨e, hb, -⟩ | ⟨tokens', -, ⟨e, ha, -⟩ | ⟨-, ha, -⟩ |
    ⟨p', before, last, ha, hstages, ⟨mode, path, houtput, -⟩ | ⟨-, ⟨-, hb, -⟩ | ⟨e, hb, -⟩ |
      ⟨q', r, hb, hr, hall⟩⟩⟩⟩
  · cases hb
  · cases hp.symm.trans ha
  · cases hp.symm.trans ha
  all_goals
    obtain rfl : p = p' := Option.some.inj (Except.ok.inj (hp.symm.trans ha))
    obtain ⟨rfl, rfl⟩ : before = [] ∧ last = { argv := ["grep", "a|b"], input := some "in" } := by
      rcases before with _ | ⟨x, before⟩
      · exact ⟨rfl, (List.singleton_inj.mp hstages).symm⟩
      · simp [p] at hstages
  · cases houtput
  · cases hq.symm.trans hb
  · cases hq.symm.trans hb
  · obtain rfl : q = q' := Option.some.inj (Except.ok.inj (hq.symm.trans hb))
    exact ⟨p, q, r, _, htokens, hgap, hgap', hp, hq, hline.trans hr, hall⟩

end ShellPipeline
