import Mathlib.Data.Nat.Find
import ShellPipeline.Pipeline.Basic

/-!
# Defects of lists of stages

A list of stages is a pipeline unless one of its positions breaks a rule, and then the first such
position is named. Plain commands break no rule of wiring when they are chained, so only a command
without words can spoil them.
-/

namespace ShellPipeline

/-- The rule that the stage at a position breaks. A stage without words is not looked at further. -/
inductive DefectAt (stages : List Stage) (i : Nat) : Defect → Prop
  | emptyArgv {stage : Stage} (here : stages[i]? = some stage) (wordless : stage.argv = []) :
      DefectAt stages i (.emptyArgv i)
  | danglingPipe {stage : Stage} (here : stages[i]? = some stage) (worded : stage.argv ≠ [])
      (last : i + 1 = stages.length) (pipes : stage.output = .pipe) :
      DefectAt stages i (.danglingPipe i)
  | unconnected {stage : Stage} (here : stages[i]? = some stage) (worded : stage.argv ≠ [])
      (followed : i + 1 < stages.length) (ends : stage.output ≠ .pipe) :
      DefectAt stages i (.unconnected i)

/-- The defect at a position before which no rule is broken. -/
def FirstDefect (stages : List Stage) (d : Defect) : Prop :=
  ∃ i, DefectAt stages i d ∧ ∀ j < i, ∀ d', ¬ DefectAt stages j d'

/-- The stage at a position keeps to the rules: it has words, and it pipes onward if and only if
another one follows. -/
def Sound (stages : List Stage) (i : Nat) (stage : Stage) : Prop :=
  stage.argv ≠ [] ∧ (stage.output = .pipe ↔ i + 1 < stages.length)

section Positions

variable {stages before rest : List Stage} {stage : Stage} {i : Nat} {d d' : Defect}

/-- A stage breaks one rule at most. -/
theorem DefectAt.unique (h : DefectAt stages i d) (h' : DefectAt stages i d') : d = d' := by
  cases h with
  | emptyArgv here wordless =>
      cases h' with
      | emptyArgv => rfl
      | danglingPipe here' worded =>
          cases here.symm.trans here'
          exact absurd wordless worded
      | unconnected here' worded =>
          cases here.symm.trans here'
          exact absurd wordless worded
  | danglingPipe here worded last =>
      cases h' with
      | emptyArgv here' wordless =>
          cases here.symm.trans here'
          exact absurd wordless worded
      | danglingPipe => rfl
      | unconnected _ _ followed => omega
  | unconnected here worded followed =>
      cases h' with
      | emptyArgv here' wordless =>
          cases here.symm.trans here'
          exact absurd wordless worded
      | danglingPipe _ _ last => omega
      | unconnected => rfl

theorem sound_iff (here : stages[i]? = some stage) :
    Sound stages i stage ↔ ∀ d, ¬ DefectAt stages i d := by
  have hlt : i < stages.length := (List.getElem?_eq_some_iff.mp here).1
  constructor
  · rintro ⟨hworded, hpipes⟩ d hd
    cases hd with
    | emptyArgv here' wordless =>
        cases here.symm.trans here'
        exact hworded wordless
    | danglingPipe here' _ last pipes =>
        cases here.symm.trans here'
        have hfollowed := hpipes.mp pipes
        omega
    | unconnected here' _ followed ends =>
        cases here.symm.trans here'
        exact ends (hpipes.mpr followed)
  · intro hnone
    have hworded : stage.argv ≠ [] := fun hwordless => hnone _ (.emptyArgv here hwordless)
    refine ⟨hworded, fun hpipes => ?_, fun hfollowed => ?_⟩
    · by_contra hlast
      exact hnone _ (.danglingPipe here hworded (by omega) hpipes)
    · by_contra hends
      exact hnone _ (.unconnected here hworded hfollowed hends)

/-- The search for a defect looks at one position after the other. -/
theorem firstDefect?_cons (before : List Stage) (stage : Stage) (rest : List Stage) :
    (∃ d, DefectAt (before ++ stage :: rest) before.length d ∧
        firstDefect? before.length (stage :: rest) = some d) ∨
      (∀ d, ¬ DefectAt (before ++ stage :: rest) before.length d) ∧
        firstDefect? before.length (stage :: rest) = firstDefect? (before.length + 1) rest := by
  have here : (before ++ stage :: rest)[before.length]? = some stage := by simp
  by_cases hwords : stage.argv = []
  · refine Or.inl ⟨_, .emptyArgv here hwords, ?_⟩
    cases rest <;> simp [firstDefect?, hwords]
  cases rest with
  | nil =>
      have hlast : before.length + 1 = (before ++ [stage]).length := by simp
      by_cases hpipes : stage.output = .pipe
      · exact Or.inl ⟨_, .danglingPipe here hwords hlast hpipes, by
          simp [firstDefect?, hwords, hpipes]⟩
      · refine Or.inr ⟨(sound_iff here).mp ⟨hwords, ?_⟩, by simp [firstDefect?, hwords, hpipes]⟩
        simp [hpipes]
  | cons next more =>
      have hfollowed : before.length + 1 < (before ++ stage :: next :: more).length := by simp
      by_cases hpipes : stage.output = .pipe
      · refine Or.inr ⟨(sound_iff here).mp ⟨hwords, ?_⟩, by simp [firstDefect?, hwords, hpipes]⟩
        simp [hpipes]
      · exact Or.inl ⟨_, .unconnected here hwords hfollowed hpipes, by
          simp [firstDefect?, hwords, hpipes]⟩

/-- The search finds the defect at the first position, from the one where it begins on, that breaks
a rule. -/
theorem firstDefect?_eq_some_iff (before l : List Stage) (d : Defect) :
    firstDefect? before.length l = some d ↔
      ∃ i, before.length ≤ i ∧ DefectAt (before ++ l) i d ∧
        ∀ j, before.length ≤ j → j < i → ∀ d', ¬ DefectAt (before ++ l) j d' := by
  induction l generalizing before with
  | nil =>
      constructor
      · intro h
        cases h
      · rintro ⟨i, hi, hd, -⟩
        have hnone : (before ++ [])[i]? = none := by simpa using hi
        cases hd with
        | emptyArgv here => cases hnone.symm.trans here
        | danglingPipe here => cases hnone.symm.trans here
        | unconnected here => cases hnone.symm.trans here
  | cons stage rest ih =>
      rcases firstDefect?_cons before stage rest with ⟨d', hd', hfound⟩ | ⟨hnone, hsame⟩
      · rw [hfound]
        constructor
        · rintro h
          obtain rfl : d' = d := Option.some.inj h
          exact ⟨before.length, Nat.le_refl _, hd', fun j hj hlt => absurd hlt (by omega)⟩
        · rintro ⟨i, hi, hd, hfirst⟩
          rcases Nat.eq_or_lt_of_le hi with rfl | hlt
          · exact congrArg some (hd'.unique hd)
          · exact absurd hd' (hfirst _ (Nat.le_refl _) hlt d')
      · have hnext := ih (before ++ [stage])
        simp only [List.length_append, List.length_singleton, List.append_assoc,
          List.singleton_append] at hnext
        rw [hsame, hnext]
        constructor
        · rintro ⟨i, hi, hd, hfirst⟩
          refine ⟨i, by omega, hd, fun j hj hlt => ?_⟩
          rcases Nat.eq_or_lt_of_le hj with rfl | hj
          · exact hnone
          · exact hfirst j hj hlt
        · rintro ⟨i, hi, hd, hfirst⟩
          refine ⟨i, ?_, hd, fun j hj hlt => hfirst j (by omega) hlt⟩
          rcases Nat.eq_or_lt_of_le hi with rfl | hi
          · exact absurd hd (hnone d)
          · exact hi

theorem firstDefect?_zero_eq_some_iff : firstDefect? 0 stages = some d ↔ FirstDefect stages d := by
  have h := firstDefect?_eq_some_iff [] stages d
  simpa [FirstDefect] using h

theorem exists_firstDefect (h : DefectAt stages i d) : ∃ d', FirstDefect stages d' := by
  classical
  have hsome : ∃ j d, DefectAt stages j d := ⟨i, d, h⟩
  obtain ⟨d', hd'⟩ := Nat.find_spec hsome
  refine ⟨d', Nat.find hsome, hd', fun j hj d'' hd'' => ?_⟩
  exact Nat.find_min hsome hj ⟨d'', hd''⟩

/-- If there is no first defect there is none at all. -/
theorem not_firstDefect_iff :
    (∀ d, ¬ FirstDefect stages d) ↔ ∀ i stage, stages[i]? = some stage → Sound stages i stage := by
  constructor
  · intro hnone i stage here
    refine (sound_iff here).mpr fun d hd => ?_
    obtain ⟨d', hd'⟩ := exists_firstDefect hd
    exact hnone d' hd'
  · rintro hsound d ⟨i, hd, -⟩
    have hbroken : ∀ stage, stages[i]? = some stage → False := fun stage here =>
      (sound_iff here).mp (hsound i stage here) d hd
    cases hd with
    | emptyArgv here => exact hbroken _ here
    | danglingPipe here => exact hbroken _ here
    | unconnected here => exact hbroken _ here

end Positions

namespace Pipeline

section Stages

variable {stages : List Stage} {d : Defect} {p : Pipeline}

/-- Stages are refused for their first defect, or because there are none. -/
theorem ofStages_eq_error_iff :
    ofStages stages = .error d ↔ stages = [] ∧ d = .noStages ∨ FirstDefect stages d := by
  by_cases hempty : stages = []
  · subst hempty
    have hnone : ¬ FirstDefect [] d := by
      rw [← firstDefect?_zero_eq_some_iff]
      simp [firstDefect?]
    simp [ofStages, hnone, eq_comm]
  · rw [← firstDefect?_zero_eq_some_iff, ofStages, dif_neg hempty]
    split
    · next d' hd' => simp [hempty, hd']
    · next hd' => simp [hempty, hd']

theorem exists_ofStages_iff_not_error :
    (∃ p, ofStages stages = .ok p ∧ p.stages = stages) ↔ ∀ d, ofStages stages ≠ .error d := by
  constructor
  · rintro ⟨p, hp, -⟩ d hd
    cases hp.symm.trans hd
  · intro hnone
    cases h : ofStages stages with
    | error d => exact absurd h (hnone d)
    | ok p => exact ⟨p, rfl, (ofStages_eq_ok_iff.mp h).symm⟩

/-- Stages are a pipeline exactly if there are some and all keep to the rules. -/
theorem exists_ofStages_iff :
    (∃ p, ofStages stages = .ok p ∧ p.stages = stages) ↔
      stages ≠ [] ∧ ∀ i stage, stages[i]? = some stage → Sound stages i stage := by
  simp only [exists_ofStages_iff_not_error, ne_eq, ofStages_eq_error_iff, not_or, not_and]
  constructor
  · intro h
    refine ⟨fun hempty => (h .noStages).1 hempty rfl, ?_⟩
    exact not_firstDefect_iff.mp fun d => (h d).2
  · rintro ⟨hne, hsound⟩ d
    exact ⟨fun hempty => absurd hempty hne, not_firstDefect_iff.mpr hsound d⟩

end Stages

/-! ## Plain commands -/

section Commands

variable {commands : List (List String)} {argv : List String} {i : Nat} {d : Defect}

@[simp] theorem length_chain (commands : List (List String)) :
    (chain commands).length = commands.length := by
  fun_induction chain commands with
  | case1 => rfl
  | case2 => rfl
  | case3 argv next rest ih => simp [ih]

@[simp] theorem map_argv_chain (commands : List (List String)) :
    (chain commands).map Stage.argv = commands := by
  fun_induction chain commands with
  | case1 => rfl
  | case2 => rfl
  | case3 argv next rest ih =>
      rw [List.map_cons, ih]
      rfl

theorem getElem?_chain (commands : List (List String)) (i : Nat) :
    (chain commands)[i]? = commands[i]?.map fun argv =>
      { argv, output := if i + 1 < commands.length then .pipe else .inherit } := by
  fun_induction chain commands generalizing i with
  | case1 => rfl
  | case2 argv => cases i <;> rfl
  | case3 argv next rest ih =>
      cases i with
      | zero => simp [Stage.ofArgv, Stage.withOutput]
      | succ i => simp [ih i]

theorem names_nothing_of_mem_chain {stage : Stage} (h : stage ∈ chain commands) :
    stage.input = none ∧ stage.output.target? = none := by
  obtain ⟨i, hi⟩ := List.getElem?_of_mem h
  rw [getElem?_chain] at hi
  obtain ⟨argv, -, rfl⟩ := Option.map_eq_some_iff.mp hi
  by_cases hfollowed : i + 1 < commands.length <;> simp [Output.target?, hfollowed]

/-- The wiring of a chain is never at fault. -/
theorem defectAt_chain_iff :
    DefectAt (chain commands) i d ↔ commands[i]? = some [] ∧ d = .emptyArgv i := by
  constructor
  · intro h
    cases h with
    | emptyArgv here wordless =>
        rw [getElem?_chain] at here
        obtain ⟨argv, hargv, rfl⟩ := Option.map_eq_some_iff.mp here
        obtain rfl : argv = [] := wordless
        exact ⟨hargv, rfl⟩
    | danglingPipe here _ last pipes =>
        rw [getElem?_chain] at here
        obtain ⟨argv, -, rfl⟩ := Option.map_eq_some_iff.mp here
        rw [length_chain] at last
        simp [last] at pipes
    | unconnected here _ followed ends =>
        rw [getElem?_chain] at here
        obtain ⟨argv, -, rfl⟩ := Option.map_eq_some_iff.mp here
        rw [length_chain] at followed
        simp [followed] at ends
  · rintro ⟨hargv, rfl⟩
    have here : (chain commands)[i]? = _ := getElem?_chain commands i
    rw [hargv] at here
    exact .emptyArgv here rfl

theorem firstDefect_chain_iff :
    FirstDefect (chain commands) d ↔
      ∃ i, commands[i]? = some [] ∧ (∀ j < i, commands[j]? ≠ some []) ∧ d = .emptyArgv i := by
  simp only [FirstDefect, defectAt_chain_iff]
  constructor
  · rintro ⟨i, ⟨hi, rfl⟩, hfirst⟩
    exact ⟨i, hi, fun j hj hempty => hfirst j hj _ ⟨hempty, rfl⟩, rfl⟩
  · rintro ⟨i, hi, hfirst, rfl⟩
    exact ⟨i, ⟨hi, rfl⟩, fun j hj d' h => hfirst j hj h.1⟩

theorem chain_eq_nil_iff : chain commands = [] ↔ commands = [] := by
  rw [← List.length_eq_zero_iff, length_chain, List.length_eq_zero_iff]

theorem ofCommands_eq_error_iff :
    ofCommands commands = .error d ↔ commands = [] ∧ d = .noStages ∨
      ∃ i, commands[i]? = some [] ∧ (∀ j < i, commands[j]? ≠ some []) ∧ d = .emptyArgv i := by
  rw [ofCommands, ofStages_eq_error_iff, chain_eq_nil_iff, firstDefect_chain_iff]

theorem sound_chain_iff :
    (∀ i stage, (chain commands)[i]? = some stage → Sound (chain commands) i stage) ↔
      [] ∉ commands := by
  rw [← not_firstDefect_iff]
  constructor
  · intro hnone hempty
    obtain ⟨i, hi⟩ := List.getElem?_of_mem hempty
    obtain ⟨d, hd⟩ := exists_firstDefect (defectAt_chain_iff.mpr ⟨hi, rfl⟩)
    exact hnone d hd
  · intro hworded d hd
    obtain ⟨i, hi, -⟩ := firstDefect_chain_iff.mp hd
    exact hworded (List.mem_of_getElem? hi)

/-- Commands are a pipeline exactly if there are some and each one has a word. -/
theorem exists_ofCommands_iff :
    (∃ p, ofCommands commands = .ok p ∧ p.stages = chain commands) ↔
      commands ≠ [] ∧ [] ∉ commands := by
  have hne : commands ≠ [] ↔ chain commands ≠ [] := chain_eq_nil_iff.not.symm
  rw [← sound_chain_iff, hne]
  exact exists_ofStages_iff

end Commands

/-- The stages of a list are those of a pipeline if and only if there are some, each has words, and
exactly those before the last pipe onward. Otherwise the defect of the first position that breaks a
rule is named. Plain commands that are chained keep their words and their order and name no files,
and the only thing that keeps them from being a pipeline is a command without words, or that there
are none. -/
theorem ofStages_names_first_defect :
    (∀ stages : List Stage,
      ((∃ p, ofStages stages = .ok p ∧ p.stages = stages) ↔
        stages ≠ [] ∧ ∀ i stage, stages[i]? = some stage →
          stage.argv ≠ [] ∧ (stage.output = .pipe ↔ i + 1 < stages.length)) ∧
      ∀ d, ofStages stages = .error d ↔ stages = [] ∧ d = .noStages ∨ FirstDefect stages d) ∧
    ∀ commands : List (List String),
      ((∃ p, ofCommands commands = .ok p ∧ p.stages.map Stage.argv = commands ∧
          ∀ stage ∈ p.stages, stage.input = none ∧ stage.output.target? = none) ↔
        commands ≠ [] ∧ [] ∉ commands) ∧
      ∀ d, ofCommands commands = .error d ↔ commands = [] ∧ d = .noStages ∨
        ∃ i, commands[i]? = some [] ∧ (∀ j < i, commands[j]? ≠ some []) ∧ d = .emptyArgv i := by
  refine ⟨fun stages => ⟨exists_ofStages_iff, fun d => ofStages_eq_error_iff⟩,
    fun commands => ⟨?_, fun d => ofCommands_eq_error_iff⟩⟩
  rw [← exists_ofCommands_iff]
  constructor
  · rintro ⟨p, hp, -⟩
    exact ⟨p, hp, (ofStages_eq_ok_iff.mp hp).symm⟩
  · rintro ⟨p, hp, hstages⟩
    refine ⟨p, hp, by rw [hstages, map_argv_chain], fun stage hstage => ?_⟩
    rw [hstages] at hstage
    exact names_nothing_of_mem_chain hstage

end Pipeline

end ShellPipeline
