import ShellPipeline.Proofs.Machine.Intake
import ShellPipeline.Proofs.Session.Rounds

/-!
# What a conversation comes to

Everything about a conversation is read off its rounds: which lines were carried out, with which
status and which history, what is left of the input, and that a stream whose lines end with a
carriage return and a line feed is the same conversation as one without the carriage returns.
-/

namespace ShellPipeline

namespace Session

variable {σ α η : Type} [Console σ]

/-- A conversation over a stream, with the rounds that it went in and what it came to. -/
structure FoldsOver (i : Intake σ)
    (perform : String → Status → Session σ α η → Outcome × Session σ α η) (s : Session σ α η)
    (stream : Bytes) (rs : List (Round (Session σ α η))) (result : Status × Session σ α η) :
    Prop where
  converses : Converses perform none 0 s rs result
  folds : rs.map (Round.drained i) = rounds perform 0 (s.drained i) (lineTexts stream)
  ends : result.2.drained i =
    sessionAfter (s.drained i) (rounds perform 0 (s.drained i) (lineTexts stream))
  lines : rs.map Round.line = (lineTexts stream).take rs.length
  /-- Every line is given the status of the one before, and the first is given zero. -/
  lasts : rs.map Round.last = (0 :: rs.map (·.outcome.status)).take rs.length
  exit_last : ∀ (j : Nat) (r : Round (Session σ α η)), rs[j]? = some r → r.outcome.exit = true →
    j + 1 = rs.length
  exit_of_lt : rs.length < (lineTexts stream).length →
    ∃ r, rs.getLast? = some r ∧ r.outcome.exit = true
  status : result.1 = (rs.getLast?.map (·.outcome.status)).getD 0
  /-- The lines that were not carried out have not been read. -/
  unread : result.2.Left i ((linesOf stream).drop rs.length).flatten
  /-- To what the lines before have left in the history, a line is added unless it is blank. -/
  adds : ∀ (j : Nat) (r : Round (Session σ α η)), rs[j]? = some r →
    r.before.history.lines.toList =
      (sessionAfter s (rs.take j)).history.lines.toList ++ [r.line].filter (Entered ·)
  history : (∀ line ∈ lineTexts stream, ∀ last t, (perform line last t).2.history = t.history) →
    ∀ (j : Nat) (r : Round (Session σ α η)), rs[j]? = some r → r.before.history.lines.toList =
      s.history.lines.toList ++ ((lineTexts stream).take (j + 1)).filter (Entered ·)

variable {i : Intake σ} {perform : String → Status → Session σ α η → Outcome × Session σ α η}
  {s : Session σ α η} {stream : Bytes}

/-- Every conversation is a fold over the lines of its stream, if what is done with a line leaves
the rest unread. -/
theorem exists_foldsOver (prompt : String) (hleft : s.Left i stream)
    (hinput : Console.isTerminal s.shell.host = false)
    (hleaves : ∀ line ∈ lineTexts stream, ∀ last, LeavesInput i (perform line last)) :
    ∃ rs, FoldsOver i perform s stream rs (s.converse perform prompt) := by
  have hconverse : s.converse perform prompt
      = converseFor perform none 0 s (s.ahead.length + Console.pending s.shell.host + 1) := by
    simp [converse, hinput]
  obtain ⟨rs, hconverses, hfolds, hunread, hends⟩ :=
    converseFor_rounds 0 (cut_linesOf stream) hleft hleaves hleft.length_linesOf_lt
  rw [← hconverse] at hconverses hunread hends
  have hlength : (rs.map (Round.drained i)).length = rs.length := List.length_map ..
  have hdrained : ∀ {j : Nat} {r : Round (Session σ α η)}, rs[j]? = some r →
      (rs.map (Round.drained i))[j]? = some (r.drained i) := by
    intro j r hr
    rw [List.getElem?_map, hr, Option.map_some]
  refine ⟨rs, hconverses, hfolds, hends, ?_, ?_, ?_, ?_, hconverses.status_eq, hunread, ?_, ?_⟩
  · have hlines := rounds_lines hfolds.symm
    rwa [hlength, List.map_map] at hlines
  · have hlasts := rounds_lasts hfolds.symm
    rwa [hlength, List.map_map, List.map_map] at hlasts
  · intro j r hr hexit
    exact (rounds_exit hfolds.symm (hdrained hr) hexit).trans hlength
  · intro hshort
    rw [← hlength] at hshort
    rw [lineTexts] at hshort
    obtain ⟨r, hr, hexit⟩ := rounds_stop hfolds.symm hshort
    rw [List.getLast?_map] at hr
    obtain ⟨r', hr', rfl⟩ := Option.map_eq_some_iff.mp hr
    exact ⟨r', hr', hexit⟩
  · intro j r hr
    have hbefore := congrArg (·.history.lines.toList) (rounds_before hfolds.symm (hdrained hr))
    rw [← List.map_take, sessionAfter_drained, history_remember] at hbefore
    exact hbefore
  · intro hkeeps j r hr
    have hhistory := rounds_history hkeeps hfolds.symm (hdrained hr)
    exact hhistory

def SameButHost (s t : Session σ α η) : Prop :=
  t = s.mapHost fun _ => t.shell.host

omit [Console σ] in
theorem SameButHost.trans {s t u : Session σ α η} (h : s.SameButHost t) (h' : t.SameButHost u) :
    s.SameButHost u := by
  rw [SameButHost] at *
  rw [h', h]
  rfl

theorem sameButHost_helpOnAll (status : Status) (s : Session σ α η) (names : List String) :
    s.SameButHost (Builtin.helpOnAll status s names).2 := by
  induction names generalizing status s with
  | nil => rfl
  | cons name names ih =>
      have hshown : s.SameButHost (Builtin.helpOn s name).2 := by
        unfold Builtin.helpOn
        split <;> rfl
      exact hshown.trans (ih _ _)

/-- A standard builtin acts on the shell through its host alone. -/
theorem sameButHost_of_mem_standard {name : String} {h : Handler (Session σ α η)}
    (hmem : (name, h) ∈ Registry.standard.entries) (words : List String) (last : Status)
    (asked : Bool) (s : Session σ α η) : s.SameButHost (h words last asked s).2 := by
  simp only [Registry.standard, List.mem_cons, List.not_mem_nil, or_false, Prod.mk.injEq] at hmem
  rcases hmem with ⟨-, rfl⟩ | ⟨-, rfl⟩ | ⟨-, rfl⟩ | ⟨-, rfl⟩ | ⟨-, rfl⟩ | ⟨-, rfl⟩
  · unfold Builtin.exit
    split
    · rfl
    · split <;> rfl
    · rfl
  · unfold Builtin.cd
    split
    · rfl
    · split <;> rfl
  · unfold Builtin.pwd
    split <;> rfl
  · rfl
  · rfl
  · unfold Builtin.help
    split
    · rfl
    · exact sameButHost_helpOnAll 0 s _

/-- No standard builtin changes the history. -/
theorem history_of_mem_standard {name : String} {h : Handler (Session σ α η)}
    (hmem : (name, h) ∈ Registry.standard.entries) (words : List String) (last : Status)
    (asked : Bool) (s : Session σ α η) : (h words last asked s).2.history = s.history := by
  have hsame := sameButHost_of_mem_standard hmem words last asked s
  rw [SameButHost] at hsame
  rw [hsame]
  rfl

/-- With the standard builtins no line touches the history itself. -/
theorem history_dispatch_standard [Host σ α η] (line : String) (last : Status)
    (s : Session σ α η) : (dispatch Registry.standard line last s).2.history = s.history := by
  unfold dispatch
  rcases hroute : Registry.standard.route line with e | _ | ⟨h, words⟩ | name | p
  · rfl
  · rfl
  · obtain ⟨name, hmem⟩ := exists_entry_of_route hroute
    exact history_of_mem_standard hmem words last false s
  · rfl
  · simp only [follow, runPipeline]
    split <;> rfl

end Session

namespace Machine

end Machine

end ShellPipeline
