import ShellPipeline.Proofs.Line.Junction
import ShellPipeline.Proofs.Session.Intake

/-!
# Conversations as folds

A conversation goes in rounds, one for each line. As long as nothing but the conversation itself
reads, its rounds are those of a fold over the lines of its input. The fold reads nothing and keeps
no count, so what holds of it holds however the input comes and wherever it is cut into pieces.
-/

namespace ShellPipeline

/-- A line that the parser does not regard as blank. -/
def Entered (line : String) : Prop :=
  parse line ≠ .ok none

instance (line : String) : Decidable (Entered line) :=
  inferInstanceAs (Decidable (parse line ≠ .ok none))

/-- Both ways of asking whether a line is blank have the same answer. -/
theorem entered_iff {line : String} : Entered line ↔ isBlankText line = false := by
  rw [Entered, ← Bool.not_eq_true, not_iff_not, ← tokenize_eq_nil_iff]
  rcases htokens : tokenize line with e | tokens
  · simp [parse, htokens]
  · rcases parse_cases htokens with ⟨rfl, hparse⟩ | ⟨hne, ⟨e, -, hparse⟩ | ⟨p, -, hparse⟩⟩
    · simp [hparse]
    · simp [hparse, hne]
    · simp [hparse, hne]

namespace Session

variable {σ α η : Type}

/-- What became of one line of a conversation. -/
structure Round (τ : Type) where
  line : String
  /-- The status that the line was given. -/
  last : Status
  /-- The session at the moment when the line was carried out. -/
  before : τ
  outcome : Outcome
  after : τ

def round (perform : String → Status → Session σ α η → Outcome × Session σ α η)
    (last : Status) (s : Session σ α η) (line : String) : Round (Session σ α η) :=
  let before := s.remember line
  let (outcome, after) := perform line last before
  ⟨line, last, before, outcome, after⟩

/-- Lines that are carried out one after the other, until one asks to exit. -/
def rounds (perform : String → Status → Session σ α η → Outcome × Session σ α η)
    (last : Status) (s : Session σ α η) : List String → List (Round (Session σ α η))
  | [] => []
  | line :: lines =>
    let r := round perform last s line
    r :: if r.outcome.exit then [] else rounds perform r.outcome.status r.after lines

def sessionAfter (s : Session σ α η) (rs : List (Round (Session σ α η))) : Session σ α η :=
  (rs.getLast?.map Round.after).getD s

/-! ## The fold -/

section

variable {perform : String → Status → Session σ α η → Outcome × Session σ α η}
  {last : Status} {s : Session σ α η} {line : String} {lines : List String}
  {rs : List (Round (Session σ α η))} {r : Round (Session σ α η)} {j : Nat}

theorem getD_getLast?_cons {β γ : Type} (f : β → γ) (b : β) (l : List β) (c : γ) :
    ((b :: l).getLast?.map f).getD c = (l.getLast?.map f).getD (f b) := by
  rw [List.getLast?_cons]
  cases l.getLast? <;> rfl

theorem sessionAfter_cons (r : Round (Session σ α η)) :
    sessionAfter s (r :: rs) = sessionAfter r.after rs :=
  getD_getLast?_cons ..

theorem rounds_of_exit (hexit : (round perform last s line).outcome.exit = true) :
    rounds perform last s (line :: lines) = [round perform last s line] := by
  simp [rounds, hexit]

theorem rounds_of_not_exit (hexit : (round perform last s line).outcome.exit = false) :
    rounds perform last s (line :: lines) = round perform last s line ::
      rounds perform (round perform last s line).outcome.status (round perform last s line).after
        lines := by
  simp [rounds, hexit]

theorem getElem?_rounds_zero (hr : (rounds perform last s (line :: lines))[0]? = some r) :
    r = round perform last s line := by
  have hhead : (rounds perform last s (line :: lines))[0]? = some (round perform last s line) := rfl
  exact (Option.some.inj (hhead.symm.trans hr)).symm

theorem getElem?_rounds_succ (hr : (rounds perform last s (line :: lines))[j + 1]? = some r) :
    (round perform last s line).outcome.exit = false ∧
      (rounds perform (round perform last s line).outcome.status
        (round perform last s line).after lines)[j]? = some r := by
  cases hexit : (round perform last s line).outcome.exit
  · rw [rounds_of_not_exit hexit] at hr
    exact ⟨rfl, hr⟩
  · rw [rounds_of_exit hexit] at hr
    cases hr

/-- The lines are carried out in order, and none is left out before the last one that is. -/
theorem rounds_lines (hrs : rounds perform last s lines = rs) :
    rs.map Round.line = lines.take rs.length := by
  subst hrs
  induction lines generalizing last s with
  | nil => rfl
  | cons line lines ih =>
      cases hexit : (round perform last s line).outcome.exit
      · rw [rounds_of_not_exit hexit, List.map_cons, List.length_cons, List.take_succ_cons, ih]
        rfl
      · rw [rounds_of_exit hexit]
        rfl

/-- Every line finds the status of the one before. -/
theorem rounds_lasts (hrs : rounds perform last s lines = rs) :
    rs.map Round.last = (last :: rs.map (·.outcome.status)).take rs.length := by
  subst hrs
  induction lines generalizing last s with
  | nil => rfl
  | cons line lines ih =>
      cases hexit : (round perform last s line).outcome.exit
      · rw [rounds_of_not_exit hexit, List.map_cons, List.map_cons, List.length_cons,
          List.take_succ_cons, ih]
        rfl
      · rw [rounds_of_exit hexit]
        rfl

/-- Only the last round asks to exit. -/
theorem rounds_exit (hrs : rounds perform last s lines = rs) (hr : rs[j]? = some r)
    (hexit : r.outcome.exit = true) : j + 1 = rs.length := by
  subst hrs
  induction lines generalizing last s j with
  | nil => cases hr
  | cons line lines ih =>
      cases j with
      | zero =>
          obtain rfl := getElem?_rounds_zero hr
          rw [rounds_of_exit hexit]
          rfl
      | succ j =>
          obtain ⟨hgoes, hr⟩ := getElem?_rounds_succ hr
          rw [rounds_of_not_exit hgoes, List.length_cons, ih hr]

/-- A line is left out only after one that asks to exit. -/
theorem rounds_stop (hrs : rounds perform last s lines = rs) (hshort : rs.length < lines.length) :
    ∃ r, rs.getLast? = some r ∧ r.outcome.exit = true := by
  subst hrs
  induction lines generalizing last s with
  | nil => exact absurd hshort (Nat.not_lt_zero _)
  | cons line lines ih =>
      cases hexit : (round perform last s line).outcome.exit
      · rw [rounds_of_not_exit hexit] at hshort ⊢
        obtain ⟨r, hr, hstop⟩ := ih (Nat.lt_of_succ_lt_succ hshort)
        exact ⟨r, by rw [List.getLast?_cons, hr]; rfl, hstop⟩
      · rw [rounds_of_exit hexit]
        exact ⟨_, rfl, hexit⟩

/-- Every line is carried out where the one before has left the session, once it has been
remembered. -/
theorem rounds_before (hrs : rounds perform last s lines = rs) (hr : rs[j]? = some r) :
    r.before = (sessionAfter s (rs.take j)).remember r.line := by
  subst hrs
  induction lines generalizing last s j with
  | nil => cases hr
  | cons line lines ih =>
      cases j with
      | zero =>
          obtain rfl := getElem?_rounds_zero hr
          rfl
      | succ j =>
          obtain ⟨hgoes, hr⟩ := getElem?_rounds_succ hr
          rw [rounds_of_not_exit hgoes, List.take_succ_cons, sessionAfter_cons]
          exact ih hr

theorem history_remember (s : Session σ α η) (line : String) :
    (s.remember line).history.lines.toList
      = s.history.lines.toList ++ [line].filter (Entered ·) := by
  rw [remember]
  split
  · next hblank =>
    have hout : ¬ Entered line := by
      rw [entered_iff, hblank]
      exact Bool.noConfusion
    simp [hout]
  · next hblank =>
    have hin : Entered line := entered_iff.mpr (Bool.eq_false_iff.mpr hblank)
    simp [hin, History.push]

/-- If no line touches the history itself, then it holds exactly the lines so far that are not
blank. -/
theorem rounds_history
    (hkeeps : ∀ line ∈ lines, ∀ last t, (perform line last t).2.history = t.history)
    (hrs : rounds perform last s lines = rs) (hr : rs[j]? = some r) :
    r.before.history.lines.toList
      = s.history.lines.toList ++ (lines.take (j + 1)).filter (Entered ·) := by
  subst hrs
  induction lines generalizing last s j with
  | nil => cases hr
  | cons line lines ih =>
      rw [List.forall_mem_cons] at hkeeps
      have hfirst : (round perform last s line).before.history.lines.toList
          = s.history.lines.toList ++ [line].filter (Entered ·) :=
        history_remember s line
      cases j with
      | zero =>
          obtain rfl := getElem?_rounds_zero hr
          exact hfirst
      | succ j =>
          obtain ⟨-, hr⟩ := getElem?_rounds_succ hr
          have hkept : (round perform last s line).after.history
              = (round perform last s line).before.history := hkeeps.1 last _
          rw [ih hkeeps.2 hr, hkept, hfirst, List.append_assoc, ← List.filter_append]
          rfl

end

/-! ## The conversation -/

variable [Console σ]

/-- A conversation with its rounds: every line is read when the one before has been carried out,
and none after one that asks to exit. -/
inductive Converses (perform : String → Status → Session σ α η → Outcome × Session σ α η)
    (prompt : Option String) : Status → Session σ α η → List (Round (Session σ α η)) →
      Status × Session σ α η → Prop
  | ended {last : Status} {s t : Session σ α η} : (s.showPrompt prompt).readLine = ([], t) →
      Converses perform prompt last s [] (last, t.showPrompt (prompt.map fun _ => "\n"))
  | exits {last : Status} {s t : Session σ α η} {bytes : Bytes} {r : Round (Session σ α η)} :
      (s.showPrompt prompt).readLine = (bytes, t) → bytes ≠ [] →
      r = round perform last t (lineText bytes) → r.outcome.exit = true →
      Converses perform prompt last s [r] (r.outcome.status, r.after)
  | goesOn {last : Status} {s t : Session σ α η} {bytes : Bytes} {r : Round (Session σ α η)}
      {rs : List (Round (Session σ α η))} {result : Status × Session σ α η} :
      (s.showPrompt prompt).readLine = (bytes, t) → bytes ≠ [] →
      r = round perform last t (lineText bytes) → r.outcome.exit = false →
      Converses perform prompt r.outcome.status r.after rs result →
      Converses perform prompt last s (r :: rs) result

variable {i : Intake σ} {perform : String → Status → Session σ α η → Outcome × Session σ α η}
  {last : Status} {s t : Session σ α η} {stream bytes : Bytes} {pieces : List Bytes}
  {rs : List (Round (Session σ α η))} {result : Status × Session σ α η}

/-- The status of a conversation is that of its last line. -/
theorem Converses.status_eq {prompt : Option String}
    (h : Converses perform prompt last s rs result) :
    result.1 = (rs.getLast?.map (·.outcome.status)).getD last := by
  induction h with
  | ended => rfl
  | exits => rfl
  | goesOn _ _ _ _ _ ih => rw [ih, getD_getLast?_cons]

def Round.drained (i : Intake σ) (r : Round (Session σ α η)) : Round (Session σ α η) :=
  { r with before := r.before.drained i, after := r.after.drained i }

theorem statuses_drained (rs : List (Round (Session σ α η))) :
    (rs.map (Round.drained i)).getLast?.map (·.outcome.status)
      = rs.getLast?.map (·.outcome.status) := by
  rw [List.getLast?_map, Option.map_map]
  rfl

theorem sessionAfter_drained (rs : List (Round (Session σ α η))) :
    sessionAfter (s.drained i) (rs.map (Round.drained i)) = (sessionAfter s rs).drained i := by
  rw [sessionAfter, sessionAfter, List.getLast?_map]
  cases rs.getLast? <;> rfl

theorem remember_drained (s : Session σ α η) (line : String) :
    (s.drained i).remember line = (s.remember line).drained i := by
  unfold remember
  split <;> rfl

theorem left_remember (hleft : s.Left i stream) (line : String) :
    (s.remember line).Left i stream := by
  unfold remember
  split <;> exact hleft

/-- What there is left to read makes no difference to a line that does not read. -/
theorem round_drained {line : String} (hleft : s.Left i stream)
    (hleaves : LeavesInput i (perform line last)) :
    round perform last (s.drained i) line = (round perform last s line).drained i := by
  simp only [round, remember_drained, hleaves.drained (left_remember hleft line), Round.drained]

theorem left_round {line : String} (hleft : s.Left i stream)
    (hleaves : LeavesInput i (perform line last)) :
    (round perform last s line).after.Left i stream :=
  hleaves.left (left_remember hleft line)

theorem converseFor_end {fuel : Nat} {prompt : Option String}
    (hread : (s.showPrompt prompt).readLine = ([], t)) :
    converseFor perform prompt last s (fuel + 1)
      = (last, t.showPrompt (prompt.map fun _ => "\n")) := by
  simp [converseFor, hread]

theorem converseFor_nil {fuel : Nat} (hleft : s.Left i []) (hfuel : 0 < fuel) :
    Converses perform none last s [] (converseFor perform none last s fuel) ∧
      (converseFor perform none last s fuel).2.Left i [] ∧
      (converseFor perform none last s fuel).2.drained i = s.drained i := by
  obtain ⟨fuel, rfl⟩ := Nat.exists_eq_succ_of_ne_zero (Nat.ne_of_gt hfuel)
  obtain ⟨t, hread, ht, hsame⟩ := readLine_end hleft
  rw [converseFor_end (show (s.showPrompt none).readLine = ([], t) from hread)]
  exact ⟨.ended hread, ht, hsame⟩

theorem converseFor_cons {fuel : Nat} {prompt : Option String} (hbytes : bytes ≠ [])
    (hread : (s.showPrompt prompt).readLine = (bytes, t)) :
    converseFor perform prompt last s (fuel + 1) =
      if (round perform last t (lineText bytes)).outcome.exit then
        ((round perform last t (lineText bytes)).outcome.status,
          (round perform last t (lineText bytes)).after)
      else converseFor perform prompt (round perform last t (lineText bytes)).outcome.status
        (round perform last t (lineText bytes)).after fuel := by
  have hempty : bytes.isEmpty = false := List.isEmpty_eq_false_iff.mpr hbytes
  simp [converseFor, hread, hempty, round, lineText]
  rfl

/-- A conversation reads the lines of its stream and carries them out as if all had been read
before. -/
theorem converseFor_rounds {fuel : Nat} (last : Status) (hcut : Cut stream pieces)
    (hleft : s.Left i stream)
    (hleaves : ∀ line ∈ pieces.map lineText, ∀ last, LeavesInput i (perform line last))
    (hfuel : pieces.length < fuel) :
    ∃ rs, Converses perform none last s rs (converseFor perform none last s fuel) ∧
      rs.map (Round.drained i) = rounds perform last (s.drained i) (pieces.map lineText) ∧
      (converseFor perform none last s fuel).2.Left i (pieces.drop rs.length).flatten ∧
      (converseFor perform none last s fuel).2.drained i = sessionAfter (s.drained i)
        (rounds perform last (s.drained i) (pieces.map lineText)) := by
  -- along the cut: a session that has read its first piece is left with the pieces after it
  induction hcut generalizing last s fuel with
  | nil =>
      exact ⟨[], (converseFor_nil hleft hfuel).1, rfl, (converseFor_nil hleft hfuel).2⟩
  | @cons line rest pieces hline hpieces ih =>
      obtain ⟨fuel, rfl⟩ := Nat.exists_eq_succ_of_ne_zero (Nat.ne_zero_of_lt hfuel)
      obtain ⟨t, hread, ht, hsame⟩ := readLine_line hline hleft
      rw [List.map_cons, List.forall_mem_cons] at hleaves
      have hfirst := hleaves.1 last
      have hround := round_drained ht hfirst
      have hafter := left_round ht hfirst
      have hunprompted : (s.showPrompt none).readLine = (line, t) := hread
      rw [converseFor_cons hline.ne_nil hunprompted, List.map_cons, ← hsame]
      cases hexit : (round perform last t (lineText line)).outcome.exit
      · have hgoes : (round perform last (t.drained i) (lineText line)).outcome.exit = false := by
          rw [hround]
          exact hexit
        obtain ⟨rs, hconverses, hrounds, hrest, hend⟩ :=
          ih _ hafter hleaves.2 (Nat.lt_of_succ_lt_succ hfuel)
        rw [rounds_of_not_exit hgoes, hround]
        refine ⟨_ :: rs, .goesOn hread hline.ne_nil rfl hexit hconverses, ?_, hrest, ?_⟩
        · exact congrArg _ hrounds
        · rw [sessionAfter_cons]
          exact hend
      · have hstops : (round perform last (t.drained i) (lineText line)).outcome.exit = true := by
          rw [hround]
          exact hexit
        rw [← hpieces.flatten_eq] at hafter
        rw [rounds_of_exit hstops, hround]
        exact ⟨[_], .exits hread hline.ne_nil rfl hexit, rfl, hafter, rfl⟩

end Session

end ShellPipeline
