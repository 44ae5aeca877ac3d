import ShellPipeline.Proofs.Line.Rules

/-!
# Reading follows the rules

The scan of a command goes from left to right. What it has taken in so far is described by the
rules, applied to the items read so far; this is the invariant of the scan, and it stands between
items only where no redirection is waiting for its file.
-/

namespace ShellPipeline.Grammar

variable {items more rest : List Item} {s t : Segment} {r : Redirect} {path : String} {i k : Nat}
  {e : ParseError} {last : Prop}

/-! ## Items after items -/

theorem redirects_append_left (h : i < items.length) :
    Redirects (items ++ rest) i r ↔ Redirects items i r := by
  rw [Redirects, Redirects, List.getElem?_append_left h]

theorem redirects_append_right :
    Redirects (items ++ rest) (items.length + k) r ↔ Redirects rest k r := by
  rw [Redirects, Redirects, List.getElem?_append_right (Nat.le_add_right ..),
    Nat.add_sub_cancel_left]

theorem Redirects.lt_length (h : Redirects items i r) : i < items.length :=
  (List.getElem?_eq_some_iff.mp h).1

/-- No redirection at the end waits for its file. -/
def Complete (items : List Item) : Prop :=
  ∀ i r, Redirects items i r → i + 1 < items.length

theorem takes_append_right :
    Takes (items ++ rest) (items.length + k) r path ↔ Takes rest k r path := by
  rw [Takes, Takes, redirects_append_right, Nat.add_assoc,
    List.getElem?_append_right (Nat.le_add_right ..), Nat.add_sub_cancel_left]

/-- What is read after a complete beginning takes its words for itself. -/
theorem takes_append (complete : Complete items) :
    Takes (items ++ rest) i r path ↔
      Takes items i r path ∨ ∃ k, i = items.length + k ∧ Takes rest k r path := by
  by_cases hi : i < items.length
  · have hno : ¬ ∃ k, i = items.length + k ∧ Takes rest k r path := by
      rintro ⟨k, rfl, -⟩
      exact Nat.not_lt.mpr (Nat.le_add_right ..) hi
    rw [or_iff_left hno, Takes, Takes, redirects_append_left hi]
    refine and_congr_right fun hredirects => ?_
    rw [List.getElem?_append_left (complete i r hredirects)]
  · obtain ⟨k, rfl⟩ := Nat.exists_eq_add_of_le (Nat.not_lt.mp hi)
    have hno : ¬ Takes items (items.length + k) r path := fun h => hi h.1.lt_length
    rw [or_iff_right hno, takes_append_right]
    simp

theorem ownWord?_append_left (h : i < items.length) :
    ownWord? (items ++ rest) i = ownWord? items i := by
  cases i with
  | zero => rw [ownWord?, ownWord?, List.getElem?_append_left h, afterRedirect, afterRedirect]
  | succ i =>
      rw [ownWord?, ownWord?, List.getElem?_append_left h, afterRedirect, afterRedirect,
        List.getElem?_append_left (Nat.lt_of_succ_lt h)]

theorem afterRedirect_length (complete : Complete items) :
    afterRedirect (items ++ rest) items.length = false := by
  rcases hlength : items.length with _ | n
  · rfl
  · have hlt : n < items.length := by rw [hlength]; exact Nat.lt_succ_self n
    rw [afterRedirect, List.getElem?_append_left hlt, List.getElem?_eq_getElem hlt]
    rcases hitem : items[n] with w | r
    · rfl
    · have hwaits := complete n r (by rw [Redirects, List.getElem?_eq_getElem hlt, hitem])
      exact absurd hwaits (by rw [hlength]; exact Nat.lt_irrefl _)

theorem ownWord?_append_right (complete : Complete items) :
    ownWord? (items ++ rest) (items.length + k) = ownWord? rest k := by
  have hitem : ∀ k, (items ++ rest)[items.length + k]? = rest[k]? := by
    intro k
    rw [List.getElem?_append_right (Nat.le_add_right ..), Nat.add_sub_cancel_left]
  have hafter : afterRedirect (items ++ rest) (items.length + k) = afterRedirect rest k := by
    cases k with
    | zero => exact afterRedirect_length complete
    | succ k => rw [← Nat.add_assoc, afterRedirect, afterRedirect, hitem]
  rw [ownWord?, ownWord?, hitem, hafter]

theorem ownWords_append (complete : Complete items) :
    ownWords (items ++ rest) = ownWords items ++ ownWords rest := by
  rw [ownWords, List.length_append, List.range_add, List.filterMap_append, List.filterMap_map]
  congr 1
  · exact List.filterMap_congr fun i hi => ownWord?_append_left (List.mem_range.mp hi)
  · exact List.filterMap_congr fun k _ => ownWord?_append_right complete

/-! ## The scan of a command -/

/-- The invariant of the scan: the items read so far are described by what was taken in, none of
them breaks a rule whatever comes after, and no redirection is waiting for its file. -/
structure Scanned (items : List Item) (s : Segment) : Prop where
  words : s.words.toList = ownWords items
  input : ∀ path, s.input = some path ↔ ∃ i, Takes items i .input path
  output : ∀ mode path, s.output = some (mode, path) ↔ ∃ i, Takes items i (.output mode) path
  complete : Complete items
  sound : ∀ rest, ∀ i < items.length, ∀ e, ¬ Faulty (items ++ rest) i e

theorem scanned_nil : Scanned [] {} := by
  have htakes : ∀ i r path, ¬ Takes [] i r path := fun i r path h => by simp [Takes, Redirects] at h
  refine ⟨rfl, ?_, ?_, ?_, ?_⟩
  · intro path
    simp [htakes]
  · intro mode path
    simp [htakes]
  · intro i r h
    cases h
  · intro rest i hi
    cases hi

/-- What has been scanned without an error breaks no rule. -/
theorem Scanned.not_faulty (h : Scanned items s) (i : Nat) (e : ParseError) :
    ¬ Faulty items i e := by
  intro hfaulty
  obtain ⟨r, hredirects⟩ := hfaulty.exists_redirect
  have hsound := h.sound [] i hredirects.lt_length e
  rw [List.append_nil] at hsound
  exact hsound hfaulty

theorem Scanned.input_isSome_iff (h : Scanned items s) :
    s.input.isSome ↔ ∃ i, Redirects items i .input := by
  constructor
  · intro hsome
    obtain ⟨path, hpath⟩ := Option.isSome_iff_exists.mp hsome
    obtain ⟨i, htakes⟩ := (h.input path).mp hpath
    exact ⟨i, htakes.1⟩
  · rintro ⟨i, hredirects⟩
    obtain ⟨path, htakes⟩ := exists_takes_of_sound (h.not_faulty i) hredirects
    rw [(h.input path).mpr ⟨i, htakes⟩]
    rfl

theorem Scanned.output_isSome_iff (h : Scanned items s) :
    s.output.isSome ↔ ∃ i mode, Redirects items i (.output mode) := by
  constructor
  · intro hsome
    obtain ⟨⟨mode, path⟩, hpath⟩ := Option.isSome_iff_exists.mp hsome
    obtain ⟨i, htakes⟩ := (h.output mode path).mp hpath
    exact ⟨i, mode, htakes.1⟩
  · rintro ⟨i, mode, hredirects⟩
    obtain ⟨path, htakes⟩ := exists_takes_of_sound (h.not_faulty i) hredirects
    rw [(h.output mode path).mpr ⟨i, htakes⟩]
    rfl

theorem Scanned.append (h : Scanned items s) (hmore : Complete more)
    (words : t.words.toList = ownWords items ++ ownWords more)
    (input : ∀ path, t.input = some path ↔ s.input = some path ∨ ∃ k, Takes more k .input path)
    (output : ∀ mode path, t.output = some (mode, path) ↔
      s.output = some (mode, path) ∨ ∃ k, Takes more k (.output mode) path)
    (sound : ∀ rest, ∀ k < more.length, ∀ e,
      ¬ Faulty (items ++ more ++ rest) (items.length + k) e) :
    Scanned (items ++ more) t := by
  have htakes : ∀ r path, (∃ i, Takes (items ++ more) i r path) ↔
      (∃ i, Takes items i r path) ∨ ∃ k, Takes more k r path := by
    intro r path
    simp only [takes_append h.complete, exists_or]
    refine or_congr_right ⟨?_, ?_⟩
    · rintro ⟨i, k, -, hk⟩
      exact ⟨k, hk⟩
    · rintro ⟨k, hk⟩
      exact ⟨items.length + k, k, rfl, hk⟩
  refine ⟨?_, ?_, ?_, ?_, ?_⟩
  · rw [words, ownWords_append h.complete]
  · intro path
    rw [input, h.input, htakes]
  · intro mode path
    rw [output, h.output, htakes]
  · intro i r hredirects
    by_cases hi : i < items.length
    · have hwaits := h.complete i r ((redirects_append_left hi).mp hredirects)
      exact Nat.lt_of_lt_of_le hwaits (by simp)
    · obtain ⟨k, rfl⟩ := Nat.exists_eq_add_of_le (Nat.not_lt.mp hi)
      have hwaits := hmore k r (redirects_append_right.mp hredirects)
      rw [List.length_append, Nat.add_assoc]
      exact Nat.add_lt_add_left hwaits _
  · intro rest i hlt e
    by_cases hi : i < items.length
    · rw [List.append_assoc]
      exact h.sound (more ++ rest) i hi e
    · obtain ⟨k, rfl⟩ := Nat.exists_eq_add_of_le (Nat.not_lt.mp hi)
      rw [List.length_append] at hlt
      exact sound rest k (Nat.lt_of_add_lt_add_left hlt) e

theorem Scanned.word (h : Scanned items s) (w : String) :
    Scanned (items ++ [.word w]) { s with words := s.words.push w } := by
  have hredirects : ∀ rest k r, k < 1 → ¬ Redirects (.word w :: rest) k r := by
    intro rest k r hk hr
    obtain rfl : k = 0 := Nat.lt_one_iff.mp hk
    cases hr
  have hnone : ∀ k r, ¬ Redirects [.word w] k r :=
    fun k r hr => hredirects [] k r hr.lt_length hr
  have htakes : ∀ k r path, ¬ Takes [.word w] k r path := fun k r path hk => hnone k r hk.1
  refine h.append ?_ ?_ ?_ ?_ ?_
  · intro k r hr
    exact absurd hr (hnone k r)
  · rw [Array.toList_push, h.words]
    rfl
  · simp [htakes]
  · simp [htakes]
  · intro rest k hk e hfaulty
    obtain ⟨r, hr⟩ := hfaulty.exists_redirect
    rw [List.append_assoc, redirects_append_right] at hr
    exact hredirects rest k r hk hr

theorem redirect_eq_ok (h : s.redirect path r = .ok t) :
    (r = .input ∧ s.input = none ∧ t = { s with input := some path }) ∨
      ∃ mode, r = .output mode ∧ s.output = none ∧ t = { s with output := some (mode, path) } := by
  cases r with
  | input =>
      rw [Segment.redirect] at h
      split at h
      · cases h
      · next hnone =>
        cases h
        exact Or.inl ⟨rfl, by simpa using hnone, rfl⟩
  | output mode =>
      rw [Segment.redirect] at h
      split at h
      · cases h
      · next hnone =>
        cases h
        exact Or.inr ⟨mode, rfl, by simpa using hnone, rfl⟩

theorem redirect_eq_error (h : s.redirect path r = .error e) :
    (r = .input ∧ s.input.isSome ∧ e = .duplicateInput) ∨
      ∃ mode, r = .output mode ∧ s.output.isSome ∧ e = .duplicateOutput := by
  cases r with
  | input =>
      rw [Segment.redirect] at h
      split at h
      · next hsome =>
        cases h
        exact Or.inl ⟨rfl, hsome, rfl⟩
      · cases h
  | output mode =>
      rw [Segment.redirect] at h
      split at h
      · next hsome =>
        cases h
        exact Or.inr ⟨mode, rfl, hsome, rfl⟩
      · cases h

theorem redirects_length : Redirects (items ++ .redirect r :: rest) items.length r :=
  (redirects_append_right (k := 0)).mpr rfl

theorem takes_length : Takes (items ++ .redirect r :: .word path :: rest) items.length r path :=
  (takes_append_right (k := 0)).mpr ⟨rfl, rfl⟩

theorem Scanned.not_faulty_redirect (h : Scanned items s) (hinput : r = .input → s.input = none)
    (houtput : ∀ mode, r = .output mode → s.output = none) :
    ¬ Faulty (items ++ .redirect r :: .word path :: rest) items.length e := by
  intro hfaulty
  cases hfaulty with
  | missingTarget _ untargeted => exact untargeted path takes_length.2
  | duplicateInput here before other =>
      have hnone := hinput (takes_length.1.unique here.1)
      have hsome := h.input_isSome_iff.mpr ⟨_, (redirects_append_left before).mp other⟩
      rw [hnone] at hsome
      cases hsome
  | duplicateOutput here before other =>
      have hnone := houtput _ (takes_length.1.unique here.1)
      have hsome := h.output_isSome_iff.mpr ⟨_, _, (redirects_append_left before).mp other⟩
      rw [hnone] at hsome
      cases hsome

theorem takes_redirection {r' : Redirect} {path' : String} :
    Takes [.redirect r, .word path] k r' path' ↔ k = 0 ∧ r = r' ∧ path = path' := by
  rcases k with _ | _ | k <;> simp [Takes, Redirects]

/-- A redirection that is accepted keeps the invariant. -/
theorem Scanned.redirect (h : Scanned items s) (hr : s.redirect path r = .ok t) :
    Scanned (items ++ [.redirect r, .word path]) t := by
  have hcomplete : Complete [.redirect r, .word path] := by
    intro k r' hk
    rcases k with _ | _ | k
    · exact Nat.one_lt_two
    · cases hk
    · cases hk
  have hsecond : ∀ rest e,
      ¬ Faulty (items ++ [.redirect r, .word path] ++ rest) (items.length + 1) e := by
    intro rest e hfaulty
    obtain ⟨r', hr'⟩ := hfaulty.exists_redirect
    rw [List.append_assoc, redirects_append_right] at hr'
    cases hr'
  -- of the two new items only the redirection could break a rule
  have hsound : (r = .input → s.input = none) → (∀ mode, r = .output mode → s.output = none) →
      ∀ rest, ∀ k < 2, ∀ e,
        ¬ Faulty (items ++ [.redirect r, .word path] ++ rest) (items.length + k) e := by
    intro hinput houtput rest k hk e
    rcases k with _ | _ | k
    · rw [List.append_assoc]
      exact h.not_faulty_redirect hinput houtput
    · exact hsecond rest e
    · exact absurd hk (by simp)
  have hwords : s.words.toList = ownWords items ++ ownWords [.redirect r, .word path] := by
    rw [h.words]
    exact (List.append_nil _).symm
  rcases redirect_eq_ok hr with ⟨rfl, hnone, rfl⟩ | ⟨mode, rfl, hnone, rfl⟩
  · refine h.append hcomplete hwords ?_ ?_ (hsound (fun _ => hnone) (by simp))
    · simp [takes_redirection, hnone]
    · simp [takes_redirection]
  · refine h.append hcomplete hwords ?_ ?_ (hsound (by simp) (fun _ _ => hnone))
    · simp [takes_redirection]
    · simp [takes_redirection, hnone]

/-- The scan of a command takes in all of its items, or stops at the first position that breaks a
rule. -/
theorem Scanned.scan (h : Scanned items s) (more : List Item) :
    (∃ t, s.scan more = .ok t ∧ Scanned (items ++ more) t) ∨
      ∃ e i, s.scan more = .error e ∧ Faulty (items ++ more) i e ∧
        ∀ j < i, ∀ e', ¬ Faulty (items ++ more) j e' := by
  -- the items read so far grow with every step, so the faulty position is their number
  fun_induction Segment.scan s more generalizing items with
  | case1 s => exact Or.inl ⟨s, rfl, by simpa using h⟩
  | case2 s w rest ih => simpa using ih (h.word w)
  | case3 s r path rest e hr =>
      refine Or.inr ⟨e, items.length, rfl, ?_, h.sound _⟩
      rcases redirect_eq_error hr with ⟨rfl, hsome, rfl⟩ | ⟨mode, rfl, hsome, rfl⟩
      · obtain ⟨j, hj⟩ := h.input_isSome_iff.mp hsome
        exact .duplicateInput takes_length hj.lt_length
          ((redirects_append_left hj.lt_length).mpr hj)
      · obtain ⟨j, mode', hj⟩ := h.output_isSome_iff.mp hsome
        exact .duplicateOutput takes_length hj.lt_length
          ((redirects_append_left hj.lt_length).mpr hj)
  | case4 s r path rest t hr ih => simpa using ih (h.redirect hr)
  | case5 s r rest hnext =>
      refine Or.inr ⟨.missingTarget r, items.length, rfl, .missingTarget redirects_length ?_,
        h.sound _⟩
      intro path hpath
      rw [List.getElem?_append_right (Nat.le_add_right ..), Nat.add_sub_cancel_left] at hpath
      cases rest with
      | nil => cases hpath
      | cons item rest =>
          cases hpath
          exact hnext path rest rfl

/-! ## The stages of a line -/

/-- A command is scanned to its end and has a word of its own, or it breaks the rule of the
error. -/
theorem read_cases (last : Prop) (items : List Item) :
    (∃ s, Segment.read items = .ok s ∧ Scanned items s ∧ ownWords items ≠ []) ∨
      ∃ e, Segment.read items = .error e ∧ Violation last items e := by
  rcases scanned_nil.scan items with ⟨s, hs, hscanned⟩ | ⟨e, i, hs, hfaulty, hfirst⟩
  · rw [List.nil_append] at hscanned
    by_cases hempty : s.words.isEmpty
    · refine Or.inr ⟨.emptyCommand, by simp [Segment.read, hs, hempty],
        .emptyCommand hscanned.not_faulty ?_⟩
      rw [← hscanned.words]
      simpa using hempty
    · refine Or.inl ⟨s, by simp [Segment.read, hs, hempty], hscanned, ?_⟩
      rw [← hscanned.words]
      simpa using hempty
  · rw [List.nil_append] at hfaulty hfirst
    exact Or.inr ⟨e, by simp [Segment.read, hs], .redirection hfaulty hfirst⟩

theorem lastOutput_eq_file_iff (s : Segment) (mode : WriteMode) (path : String) :
    s.lastOutput = .file mode path ↔ s.output = some (mode, path) := by
  rw [Segment.lastOutput]
  rcases s.output with _ | ⟨mode', path'⟩ <;> simp

/-- The last command keeps to the rules and its stage is described by them, or it breaks one. -/
theorem lastStage_cases (hlast : last) (items : List Item) :
    (∃ stage, (Segment.read items).map Segment.lastStage = .ok stage ∧ WellFormed last items ∧
        Describes last items stage) ∨
      ∃ e, (Segment.read items).map Segment.lastStage = .error e ∧ Violation last items e := by
  rcases read_cases last items with ⟨s, hs, hscanned, hwords⟩ | ⟨e, hs, hviolation⟩
  · refine Or.inl ⟨s.lastStage, by rw [hs]; rfl,
      wellFormed_of_sound hscanned.not_faulty hwords fun hno => absurd hlast hno,
      hscanned.words, hscanned.input, fun hno => absurd hlast hno, fun _ => s.lastOutput_ne_pipe,
      fun _ mode path => ?_⟩
    exact (lastOutput_eq_file_iff s mode path).trans (hscanned.output mode path)
  · exact Or.inr ⟨e, by rw [hs]; rfl, hviolation⟩

/-- A command before a pipe keeps to the rules and its stage is described by them, or it breaks
one. -/
theorem pipedStage_cases (hlast : ¬ last) (items : List Item) :
    (∃ stage, (Segment.read items).bind Segment.pipedStage = .ok stage ∧ WellFormed last items ∧
        Describes last items stage) ∨
      ∃ e, (Segment.read items).bind Segment.pipedStage = .error e ∧ Violation last items e := by
  rcases read_cases last items with ⟨s, hs, hscanned, hwords⟩ | ⟨e, hs, hviolation⟩
  · by_cases hsome : s.output.isSome
    · obtain ⟨i, mode, hi⟩ := hscanned.output_isSome_iff.mp hsome
      refine Or.inr ⟨.conflictingOutput, ?_,
        .conflictingOutput hscanned.not_faulty hwords hlast hi⟩
      simp [hs, Except.bind, Segment.pipedStage, hsome]
    · refine Or.inl ⟨⟨s.words.toList, s.input, .pipe⟩, ?_,
        wellFormed_of_sound hscanned.not_faulty hwords fun _ i mode hi => ?_,
        hscanned.words, hscanned.input, fun _ => rfl, fun hyes => absurd hyes hlast,
        fun hyes => absurd hyes hlast⟩
      · simp [hs, Except.bind, Segment.pipedStage, hsome]
      · exact hsome (hscanned.output_isSome_iff.mpr ⟨i, mode, hi⟩)
  · exact Or.inr ⟨e, by rw [hs]; rfl, hviolation⟩

theorem Accepts.cons {commands : List (List Item)} {stages : List Stage} {stage : Stage}
    (hformed : WellFormed (commands = []) items)
    (hdescribes : Describes (commands = []) items stage) (h : Accepts commands stages) :
    Accepts (items :: commands) (stage :: stages) := by
  obtain ⟨hlength, hstages⟩ := h
  refine ⟨by simp [hlength], ?_⟩
  intro i items' hi
  cases i with
  | zero =>
      cases hi
      simpa using ⟨hformed, hdescribes⟩
  | succ i => simpa using hstages i items' hi

theorem Rejects.head {commands : List (List Item)}
    (h : Violation (commands = []) items e) : Rejects (items :: commands) e :=
  ⟨0, items, rfl, by simpa using h, fun j hj => absurd hj (Nat.not_lt_zero j)⟩

theorem Rejects.tail {commands : List (List Item)}
    (hformed : WellFormed (commands = []) items) (h : Rejects commands e) :
    Rejects (items :: commands) e := by
  obtain ⟨i, items', hi, hviolation, hbefore⟩ := h
  refine ⟨i + 1, items', hi, by simpa using hviolation, ?_⟩
  intro j hj items'' hj'
  cases j with
  | zero =>
      cases hj'
      simpa using hformed
  | succ j => simpa using hbefore j (Nat.lt_of_succ_lt_succ hj) items'' hj'

theorem readStages_singleton (items : List Item) :
    readStages [items] = ((Segment.read items).map Segment.lastStage).map ([·]) := by
  rw [readStages]
  cases Segment.read items <;> rfl

/-- The commands of a line are read as the stages that they describe, or the leftmost of them that
breaks a rule decides the error. -/
theorem readStages_cases (commands : List (List Item)) :
    (∃ stages, readStages commands = .ok stages ∧ Accepts commands stages) ∨
      ∃ e, readStages commands = .error e ∧ Rejects commands e := by
  induction commands with
  | nil => exact Or.inl ⟨[], rfl, rfl, by simp⟩
  | cons items commands ih =>
      cases commands with
      | nil =>
          rcases lastStage_cases (rfl : ([] : List (List Item)) = []) items with
            ⟨stage, hstage, hformed, hdescribes⟩ | ⟨e, hstage, hviolation⟩
          · refine Or.inl ⟨[stage], ?_, .cons hformed hdescribes ⟨rfl, by simp⟩⟩
            rw [readStages_singleton, hstage]
            rfl
          · refine Or.inr ⟨e, ?_, .head hviolation⟩
            rw [readStages_singleton, hstage]
            rfl
      | cons next rest =>
          rcases pipedStage_cases (List.cons_ne_nil next rest) items with
            ⟨stage, hstage, hformed, hdescribes⟩ | ⟨e, hstage, hviolation⟩
          · rcases ih with ⟨stages, hstages, haccepts⟩ | ⟨e, hstages, hrejects⟩
            · refine Or.inl ⟨stage :: stages, ?_, haccepts.cons hformed hdescribes⟩
              rw [readStages, hstage, hstages]
              rfl
            · refine Or.inr ⟨e, ?_, hrejects.tail hformed⟩
              rw [readStages, hstage, hstages]
              rfl
          · refine Or.inr ⟨e, ?_, .head hviolation⟩
            rw [readStages, hstage]

example : readStages [[.word "cat", .redirect .input, .word "a", .redirect .input]] =
    .error (.missingTarget .input) := rfl

theorem intercalate_segments (tokens : List Token) :
    [Token.pipe].intercalate ((segments tokens).map (List.map .item)) = tokens := by
  induction tokens with
  | nil => rfl
  | cons token tokens ih =>
      obtain ⟨items, rest, hsegments⟩ := List.exists_cons_of_ne_nil (segments_ne_nil tokens)
      rw [hsegments] at ih
      cases token with
      | pipe => simpa [segments, hsegments, List.intercalate_cons_cons] using ih
      | item item =>
          cases rest with
          | nil => simpa [segments, hsegments] using ih
          | cons next rest =>
              simpa [segments, hsegments, List.intercalate_cons_cons] using ih

/-! ## Whole lines -/

/-- The stages of a line that is read are those of its commands. -/
theorem parse_eq_ok {line : String} {tokens : List Token} {stages : List Stage}
    (htokens : tokenize line = .ok tokens) (hne : tokens ≠ [])
    (h : readStages (segments tokens) = .ok stages) :
    ∃ p : Pipeline, parse line = .ok (some p) ∧ p.stages = stages := by
  refine ⟨⟨stages, wellWired_of_readStages (segments_ne_nil tokens) h⟩, ?_, rfl⟩
  simp only [parse, htokens, if_neg hne]
  split
  · next hread =>
    rw [h] at hread
    cases hread
  · next hread =>
    rw [h] at hread
    cases hread
    rfl

theorem parse_eq_error {line : String} {tokens : List Token}
    (htokens : tokenize line = .ok tokens) (hne : tokens ≠ [])
    (h : readStages (segments tokens) = .error e) : parse line = .error e := by
  simp only [parse, htokens, if_neg hne]
  split
  · next hread =>
    rw [h] at hread
    cases hread
    rfl
  · next hread =>
    rw [h] at hread
    cases hread

/-- A line is read by the rules of its commands. What is no sequence of tokens is a lexical error,
and a line without tokens is no pipeline. Otherwise the commands between the pipes are read as the
stages they describe when they all obey the rules, and when they do not, the leftmost that breaks a
rule decides the error. -/
theorem parse_follows_rules (line : String) :
    (∀ e, tokenize line = .error e → parse line = .error (.lexical e)) ∧
    (tokenize line = .ok [] → parse line = .ok none) ∧
    ∀ tokens, tokenize line = .ok tokens → tokens ≠ [] →
      ∃ commands : List (List Item), commands = segments tokens ∧ commands ≠ [] ∧
        [Token.pipe].intercalate (commands.map (List.map .item)) = tokens ∧
        ((∃ p, parse line = .ok (some p)) ↔
          ∀ i items, commands[i]? = some items → WellFormed (i + 1 = commands.length) items) ∧
        (∀ p, parse line = .ok (some p) → p.length = commands.length ∧
          ∀ i items, commands[i]? = some items →
            ∃ stage, p.stages[i]? = some stage ∧
              Describes (i + 1 = commands.length) items stage) ∧
        parse line ≠ .ok none ∧
        ∀ e, parse line = .error e ↔ Rejects commands e := by
  refine ⟨?_, ?_, ?_⟩
  · intro e he
    rw [parse, he]
  · intro hnil
    simp [parse, hnil]
  · intro tokens htokens hne
    refine ⟨segments tokens, rfl, segments_ne_nil tokens, intercalate_segments tokens, ?_⟩
    rcases readStages_cases (segments tokens) with
      ⟨stages, hstages, hlength, haccepts⟩ | ⟨e, hstages, hrejects⟩
    · obtain ⟨p, hp, rfl⟩ := parse_eq_ok htokens hne hstages
      have hformed := fun i items hi => (haccepts i items hi).1
      rw [hp]
      refine ⟨⟨fun _ => hformed, fun _ => ⟨p, rfl⟩⟩, ?_, by simp, ?_⟩
      · rintro _ ⟨⟩
        exact ⟨hlength, fun i items hi => (haccepts i items hi).2⟩
      · intro e
        constructor
        · rintro ⟨⟩
        · rintro ⟨i, items, hi, hviolation, -⟩
          exact absurd (hformed i items hi) hviolation.not_wellFormed
    · rw [parse_eq_error htokens hne hstages]
      refine ⟨⟨?_, ?_⟩, ?_, ?_, ?_⟩
      · rintro ⟨p, ⟨⟩⟩
      · intro hformed
        obtain ⟨i, items, hi, hviolation, -⟩ := hrejects
        exact absurd (hformed i items hi) hviolation.not_wellFormed
      · rintro p ⟨⟩
      · simp
      · intro e'
        constructor
        · rintro ⟨⟩
          exact hrejects
        · intro hrejects'
          rw [hrejects.unique hrejects']

end ShellPipeline.Grammar
