import ShellPipeline.Proofs.Line.Checked
import ShellPipeline.Proofs.Run.Connection
import ShellPipeline.Session.Dispatch

/-!
# Carrying out a line with every step checked

A line is read, looked at and run on stages that may be no pipeline, so that the first and the last
of them have to be looked for. What a line comes to is the same as without the checks, on every
host, with every registry and after every history: no step ever is without a result.
-/

namespace ShellPipeline

namespace Checked

variable {σ α η : Type} [Host σ α η]

def first : List Stage → Except Misstep Stage
  | [] => .error .firstOfNoStages
  | stage :: _ => .ok stage

/-- Runs stages that may be no pipeline. -/
def run (s : Shell σ α η) (l : List Stage) : Except Misstep (Except Fault Status × Shell σ α η) :=
  let (launched, s) := s.launchAll 0 none l
  let s := s.closeAll launched.leftover.toList
  match lastPosition .lastOfNoStages l with
  | .error m => .error m
  | .ok last =>
    let (final, s) := s.reapAll last launched.processes
    .ok (match launched.fault, final with
      | some f, _ => (.error f, s)
      | none, some (.error f) => (.error f, s)
      | none, some (.ok exit) => (.ok exit.status, s)
      | none, none => (.ok failureStatus, s))

variable [Console σ]

def dispatchStages (r : Registry (Session σ α η)) (l : List Stage) (last : Status)
    (s : Session σ α η) : Except Misstep (Outcome × Session σ α η) :=
  match first l with
  | .error m => .error m
  | .ok stage =>
    match r.lookup stage.program with
    | some h =>
      if 1 < l.length || l.any Stage.redirected then
        .ok (⟨failureStatus, false⟩,
          s.complain (stage.program ++ ": builtins cannot be piped or redirected"))
      else .ok (h stage.argv last false s)
    | none =>
      match run s.shell l with
      | .error m => .error m
      | .ok (.ok status, shell) => .ok (⟨status, false⟩, { s with shell })
      | .ok (.error f, shell) =>
        .ok (⟨failureStatus, false⟩, { s with shell }.complain f.message)

def dispatch (r : Registry (Session σ α η)) (line : String) (last : Status)
    (s : Session σ α η) : Except Misstep (Outcome × Session σ α η) :=
  match parse line with
  | .error (.misstep m) => .error m
  | .error (.refused e) => .ok (s.complainInvalid e)
  | .ok none => .ok (⟨last, false⟩, s)
  | .ok (some l) => dispatchStages r l last s

/-! ## No step is without a result -/

omit [Console σ] in
/-- A pipeline is run without a misstep. -/
theorem run_eq (s : Shell σ α η) (p : Pipeline) : run s p.stages = .ok (s.run p) := by
  have hlast : lastPosition .lastOfNoStages p.stages = .ok p.lastIndex := by
    rw [lastPosition, List.isEmpty_eq_false_iff.mpr p.wellWired.ne_nil]
    rfl
  rw [run, hlast]
  rfl

theorem dispatchStages_eq (r : Registry (Session σ α η)) (p : Pipeline) (last : Status)
    (s : Session σ α η) :
    dispatchStages r p.stages last s = .ok (s.follow last (r.routePipeline p)) := by
  have hfirst : first p.stages = .ok p.first := by
    obtain ⟨stage, rest, hstages⟩ := List.exists_cons_of_ne_nil p.wellWired.ne_nil
    simp only [Pipeline.first, hstages, first, List.head_cons]
  have hplain : (1 < p.stages.length || p.stages.any Stage.redirected) = !p.isPlain := by
    simp only [Pipeline.isPlain, Bool.not_and, Bool.not_not, ← decide_not, Nat.not_le]
    rfl
  rw [dispatchStages, hfirst, Registry.routePipeline]
  rcases hlookup : r.lookup p.first.program with _ | h
  · simp only [hlookup, run_eq, Session.follow, Session.runPipeline]
    rcases s.shell.run p with ⟨f | status, shell⟩ <;> rfl
  · simp only [hlookup, hplain]
    cases p.isPlain <;> rfl

/-- A line is carried out without a misstep, whatever it says. -/
theorem dispatch_eq (r : Registry (Session σ α η)) (line : String) (last : Status)
    (s : Session σ α η) : dispatch r line last s = .ok (s.dispatch r line last) := by
  rw [dispatch, parse_eq, Session.dispatch, Registry.route]
  rcases ShellPipeline.parse line with e | _ | p
  · rfl
  · rfl
  · exact dispatchStages_eq r p last s

end Checked

/-! ## What is read -/

theorem WellWired.argv_ne_nil {l : List Stage} (h : WellWired l) {stage : Stage}
    (hstage : stage ∈ l) : stage.argv ≠ [] := by
  fun_induction WellWired l with
  | case1 => cases h
  | case2 s =>
      obtain rfl := List.mem_singleton.mp hstage
      exact h.1
  | case3 s t r ih =>
      rcases List.mem_cons.mp hstage with rfl | hmem
      · exact h.1.1
      · exact ih h.2 hmem

theorem WellWired.output_eq_pipe_iff {l : List Stage} (h : WellWired l) {i : Nat} {stage : Stage}
    (hi : l[i]? = some stage) : stage.output = .pipe ↔ i + 1 < l.length := by
  constructor
  · intro hpipe
    have hlt := (List.getElem?_eq_some_iff.mp hi).1
    by_contra hlast
    exact h.output_ne_pipe hi (by omega) hpipe
  · exact h.output_eq_pipe hi

/-- The stages of a line are a pipeline before anything checks that they are. -/
theorem wellWired_of_stages {tokens : List Token} {l : List Stage}
    (h : Checked.stages tokens = .ok l) : WellWired l := by
  rw [Checked.stages_eq] at h
  rcases hread : readStages (segments tokens) with e | l' <;> rw [hread] at h <;> cases h
  exact wellWired_of_readStages (segments_ne_nil tokens) hread

/-- A command is missing only where one of the commands between the pipes has no word of its
own. -/
theorem exists_wordless {line : String} (h : parse line = .error .emptyCommand) :
    ∃ tokens, tokenize line = .ok tokens ∧ ∃ items : List Item,
      items.map .item ∈ tokens.splitOn .pipe ∧ Grammar.ownWords items = [] := by
  rcases htokens : tokenize line with e | tokens
  · rw [parse, htokens] at h
    cases h
  · refine ⟨tokens, rfl, ?_⟩
    rcases parse_cases htokens with ⟨-, hparse⟩ | ⟨-, ⟨e, hread, hparse⟩ | ⟨p, -, hparse⟩⟩
    · rw [h] at hparse
      cases hparse
    · obtain rfl : ParseError.emptyCommand = e := Except.error.inj (h.symm.trans hparse)
      rcases Grammar.readStages_cases (segments tokens) with ⟨l, hl, -⟩ | ⟨e, he, hrejects⟩
      · rw [hread] at hl
        cases hl
      · obtain rfl : ParseError.emptyCommand = e := Except.error.inj (hread.symm.trans he)
        obtain ⟨i, items, hitems, hviolation, -⟩ := hrejects
        refine ⟨items, ?_, ?_⟩
        · rw [Checked.splitOn_pipe]
          exact List.mem_map_of_mem (List.mem_of_getElem? hitems)
        · cases hviolation with
          | redirection faulty => cases faulty
          | emptyCommand _ wordless => exact wordless
    · rw [h] at hparse
      cases hparse

/-- Whatever the line, the registry, the host and the session, carrying out a line with every step
checked comes to what carrying it out comes to, so no step is without a result. The stages that are
read are a pipeline already: there is one, each has a program, and just those before the last pipe
onward. So a command is found missing only where one of the commands of the line has no word of its
own. -/
theorem Session.dispatch_without_misstep {σ α η : Type} [Host σ α η] [Console σ]
    (r : Registry (Session σ α η)) (line : String) (last : Status) (s : Session σ α η) :
    Checked.dispatch r line last s = .ok (s.dispatch r line last) ∧
      (∀ tokens l, tokenize line = .ok tokens → Checked.stages tokens = .ok l →
        l ≠ [] ∧ (∀ stage ∈ l, stage.argv ≠ []) ∧
          (∀ i stage, l[i]? = some stage → (stage.output = .pipe ↔ i + 1 < l.length)) ∧
          ∃ p, Pipeline.ofStages l = .ok p) ∧
      (parse line = .error .emptyCommand →
        ∃ tokens, tokenize line = .ok tokens ∧ ∃ items : List Item,
          items.map .item ∈ tokens.splitOn .pipe ∧ Grammar.ownWords items = []) := by
  refine ⟨Checked.dispatch_eq r line last s, ?_, exists_wordless⟩
  intro tokens l _ hstages
  have hwired := wellWired_of_stages hstages
  refine ⟨hwired.ne_nil, fun stage => hwired.argv_ne_nil, fun i stage => hwired.output_eq_pipe_iff,
    ?_⟩
  have hpipeline := Checked.wired_eq hwired
  rw [Checked.wired] at hpipeline
  split at hpipeline
  · cases hpipeline
  · next p hp => exact ⟨p, hp⟩

end ShellPipeline
