import ShellPipeline.Pipeline.Stage
import ShellPipeline.Text.Numeral

/-!
# Pipelines

A pipeline is a nonempty chain of commands in which every stage but the last pipes into the next
one and the last does not. The wiring is part of the type, so nothing that runs a pipeline has to
check it. `Pipeline.ofStages` names the first defect of a list of stages that is no pipeline.
-/

namespace ShellPipeline

/-- A list of stages is well wired when it is nonempty, every stage has a program, and exactly the
stages before the last pipe onward. -/
def WellWired : List Stage → Prop
  | [] => False
  | [s] => s.argv ≠ [] ∧ s.output ≠ .pipe
  | s :: t :: r => (s.argv ≠ [] ∧ s.output = .pipe) ∧ WellWired (t :: r)

instance WellWired.decidable : (l : List Stage) → Decidable (WellWired l)
  | [] => isFalse id
  | [s] => inferInstanceAs (Decidable (s.argv ≠ [] ∧ s.output ≠ .pipe))
  | s :: t :: r =>
    have := WellWired.decidable (t :: r)
    inferInstanceAs (Decidable ((s.argv ≠ [] ∧ s.output = .pipe) ∧ WellWired (t :: r)))

theorem WellWired.ne_nil {l : List Stage} (h : WellWired l) : l ≠ [] := by
  rintro rfl
  exact h

/-- A nonempty chain of stages, each piping into the next. -/
structure Pipeline where
  stages : List Stage
  /-- Every stage but the last pipes onward, and every stage has a program. -/
  wellWired : WellWired stages
deriving DecidableEq

/-- Why a list of stages is no pipeline. -/
inductive Defect where
  | noStages
  /-- The stage at this position has no words. -/
  | emptyArgv (index : Nat)
  /-- The last stage, at this position, pipes onward. -/
  | danglingPipe (index : Nat)
  /-- The stage at this position is followed by another one but does not pipe into it. -/
  | unconnected (index : Nat)
deriving DecidableEq, Repr

def Defect.message : Defect → String
  | noStages => "pipeline has no stages"
  | emptyArgv i => "stage " ++ decimal i ++ " has an empty argument list"
  | danglingPipe i => "last stage " ++ decimal i ++ " pipes to a stage that does not exist"
  | unconnected i =>
    "stage " ++ decimal i ++ " is followed by another stage but does not pipe into it"

/-- The first defect among the stages from position `index` on. -/
def firstDefect? (index : Nat) : List Stage → Option Defect
  | [] => none
  | [s] =>
    if s.argv = [] then some (.emptyArgv index)
    else if s.output = .pipe then some (.danglingPipe index)
    else none
  | s :: t :: r =>
    if s.argv = [] then some (.emptyArgv index)
    else if s.output ≠ .pipe then some (.unconnected index)
    else firstDefect? (index + 1) (t :: r)

/-- A nonempty list without defect is well wired. -/
theorem firstDefect?_eq_none_iff {index : Nat} {l : List Stage} (hl : l ≠ []) :
    firstDefect? index l = none ↔ WellWired l := by
  fun_induction firstDefect? index l with
  | case1 => exact absurd rfl hl
  | case2 i s h => simp [WellWired, h]
  | case3 i s h hp => simp [WellWired, hp]
  | case4 i s h hp => simp [WellWired, h, hp]
  | case5 i s t r h => simp [WellWired, h]
  | case6 i s t r h hp => simp [WellWired, hp]
  | case7 i s t r h hp ih =>
    have hp' : s.output = .pipe := Decidable.not_not.mp hp
    simp [WellWired, h, hp', ih]

namespace Pipeline

/-- The pipeline made of a list of stages, or its first defect. -/
def ofStages (stages : List Stage) : Except Defect Pipeline :=
  if h : stages = [] then .error .noStages
  else match hd : firstDefect? 0 stages with
    | some d => .error d
    | none => .ok ⟨stages, (firstDefect?_eq_none_iff h).mp hd⟩

theorem ofStages_eq_ok_iff {stages : List Stage} {p : Pipeline} :
    ofStages stages = .ok p ↔ stages = p.stages := by
  have hnone : firstDefect? 0 p.stages = none :=
    (firstDefect?_eq_none_iff p.wellWired.ne_nil).mpr p.wellWired
  constructor
  · intro h
    unfold ofStages at h
    split at h
    · cases h
    · split at h <;> cases h
      rfl
  · rintro rfl
    rw [ofStages, dif_neg p.wellWired.ne_nil]
    split
    · next d hd => cases hnone.symm.trans hd
    · rfl

def chain : List (List String) → List Stage
  | [] => []
  | [argv] => [Stage.ofArgv argv]
  | argv :: next :: rest => (Stage.ofArgv argv).withOutput .pipe :: chain (next :: rest)

/-- The pipeline of plain commands, each piping into the next. -/
def ofCommands (commands : List (List String)) : Except Defect Pipeline :=
  ofStages (chain commands)

def first (p : Pipeline) : Stage :=
  p.stages.head p.wellWired.ne_nil

def length (p : Pipeline) : Nat :=
  p.stages.length

def lastIndex (p : Pipeline) : Nat :=
  p.length - 1

/-- Whether a pipeline has no stages, which is never the case. -/
def isEmpty (p : Pipeline) : Bool :=
  p.stages.isEmpty

/-- Whether some stage names a file to read or to write. -/
def redirected (p : Pipeline) : Bool :=
  p.stages.any Stage.redirected

end Pipeline

end ShellPipeline
