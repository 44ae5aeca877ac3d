import ShellPipeline.Proofs.Session.Explained
import ShellPipeline.Proofs.Text.Json

/-!
# What can be told from an explanation

The stages of a pipeline can be told from the JSON text that explains it, whatever stands in their
words and paths. So two lines are explained alike only if the same pipeline is read from them.
-/

namespace ShellPipeline

/-! ## Stages in JSON -/

namespace Json

def text? : Json → Option String
  | text s => some s
  | _ => none

def nullable? : Json → Option (Option String)
  | null => some none
  | text s => some (some s)
  | _ => none

def items? : Json → Option (List Json)
  | list js => some js
  | _ => none

def member? (name : String) : Json → Option Json
  | object ms => ms.lookup name
  | _ => none

end Json

def Output.ofJson? (j : Json) : Option Output :=
  match (j.member? "mode").bind Json.text?, (j.member? "path").map Json.text? with
  | some "inherit", none => some .inherit
  | some "pipe", none => some .pipe
  | some "truncate", some (some path) => some (.file .truncate path)
  | some "append", some (some path) => some (.file .append path)
  | _, _ => none

def Stage.ofJson? (j : Json) : Option Stage := do
  let argv ← (← (← j.member? "argv").items?).mapM Json.text?
  let input ← (← j.member? "input").nullable?
  let output ← Output.ofJson? (← j.member? "output")
  return { argv, input, output }

def stagesOfJson? (j : Json) : Option (List Stage) := do
  (← j.items?).mapM Stage.ofJson?

theorem mapM_map_eq_some {α β : Type} {read : β → Option α} {write : α → β}
    (h : ∀ a, read (write a) = some a) (l : List α) : (l.map write).mapM read = some l := by
  induction l with
  | nil => rfl
  | cons a l ih => simp [h, ih]

theorem Output.ofJson?_toJson (o : Output) : Output.ofJson? o.toJson = some o := by
  rcases o with _ | _ | ⟨_ | _, path⟩ <;> rfl

theorem Stage.ofJson?_toJson (s : Stage) : Stage.ofJson? s.toJson = some s := by
  have htext : ∀ w, (Json.text w).text? = some w := fun _ => rfl
  have hargv := mapM_map_eq_some htext s.argv
  have hinput : (s.input.elim Json.null .text).nullable? = some s.input := by
    cases s.input <;> rfl
  simp only [Stage.ofJson?, Stage.toJson, Json.member?, Json.items?, List.lookup_cons]
  simp [hargv, hinput, Output.ofJson?_toJson]

/-- A reader who knows the names of the members gets the stages back. -/
theorem stagesOfJson?_toJson (p : Pipeline) : stagesOfJson? p.toJson = some p.stages :=
  mapM_map_eq_some Stage.ofJson?_toJson p.stages

/-! ## Explanations -/

variable {line : String} {p p' : Pipeline}

theorem isText_explain (p : Pipeline) : Json.IsText (p.explain ++ "\n") p.toJson :=
  Json.isText_pretty p.toJson (by decide)

/-- Whoever reads the explanation as JSON gets the stages of the pipeline and no others. -/
theorem stages_of_explain (p : Pipeline) (stages : List Stage) :
    (∃ j, Json.IsText (p.explain ++ "\n") j ∧ stagesOfJson? j = some stages) ↔
      stages = p.stages := by
  constructor
  · rintro ⟨j, htext, hstages⟩
    obtain rfl := htext.unique (isText_explain p)
    exact Option.some.inj (hstages.symm.trans (stagesOfJson?_toJson p))
  · rintro rfl
    exact ⟨p.toJson, isText_explain p, stagesOfJson?_toJson p⟩

theorem explain_inj : p'.explain = p.explain ↔ p' = p := by
  constructor
  · intro hsame
    have hread := stages_of_explain p' p.stages
    rw [hsame, stages_of_explain] at hread
    obtain ⟨stages, wellWired⟩ := p
    obtain rfl : stages = p'.stages := hread.mp rfl
    rfl
  · rintro rfl
    rfl

theorem explanation?_eq_some_iff {text : String} :
    explanation? line = some text ↔ ∃ p, parse line = .ok (some p) ∧ p.explain ++ "\n" = text := by
  unfold explanation?
  split
  · simp_all
  · simp_all

/-- Two lines are explained with the same text exactly if the same pipeline is read from both. -/
theorem explained_alike_iff (line line' : String) :
    (∃ text, explanation? line = some text ∧ explanation? line' = some text) ↔
      ∃ p, parse line = .ok (some p) ∧ parse line' = .ok (some p) := by
  simp only [explanation?_eq_some_iff]
  constructor
  · rintro ⟨_, ⟨p, hline, rfl⟩, p', hline', hsame⟩
    obtain rfl := explain_inj.mp ((String.append_left_inj "\n").mp hsame)
    exact ⟨p', hline, hline'⟩
  · rintro ⟨p, hline, hline'⟩
    exact ⟨_, ⟨p, hline, rfl⟩, p, hline', rfl⟩

variable {σ α η : Type} [Console σ]

theorem explain_of_explanation? {text : String} (h : explanation? line = some text) (last : Status)
    (s : Session σ α η) : s.explain line last = (⟨0, false⟩, s.print text) := by
  obtain ⟨p, hparse, rfl⟩ := explanation?_eq_some_iff.mp h
  rw [Session.explain, hparse]

/-- The explanation of a pipeline is a JSON text with an indentation of two spaces, and whoever
reads it as JSON gets the stages of the pipeline from it. Two lines are explained with the same text
if and only if the same pipeline is read from both. -/
theorem explain_loses_nothing (p : Pipeline) (s : Session σ α η) :
    Json.Reads .indented 0 .value p.toJson p.explain.toList [] ∧
    (∀ stages, (∃ j, Json.IsText (p.explain ++ "\n") j ∧ stagesOfJson? j = some stages) ↔
      stages = p.stages) ∧
    (∀ p' : Pipeline, p'.explain = p.explain ↔ p' = p) ∧
    (∀ line text last, explanation? line = some text →
      s.explain line last = (⟨0, false⟩, s.print text)) ∧
    ∀ line line', (∃ text, explanation? line = some text ∧ explanation? line' = some text) ↔
      ∃ p, parse line = .ok (some p) ∧ parse line' = .ok (some p) :=
  ⟨reads_explain p, stages_of_explain p, fun _ => explain_inj,
    fun _ _ last h => explain_of_explanation? h last s, explained_alike_iff⟩

end ShellPipeline
