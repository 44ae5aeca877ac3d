import Mathlib.Data.List.Basic
import ShellPipeline.Line.Parse

/-!
# The rules of a command

What a command of a line must look like, said of the positions of its items. A redirection takes
the word right after it, and every other word is the command's own. The first position that breaks
a rule about redirections decides the error. The rules about the command as a whole come after.
-/

namespace ShellPipeline.Grammar

def Redirects (items : List Item) (i : Nat) (r : Redirect) : Prop :=
  items[i]? = some (.redirect r)

/-- The redirection at a position takes the word right after it as its file. -/
def Takes (items : List Item) (i : Nat) (r : Redirect) (path : String) : Prop :=
  Redirects items i r ∧ items[i + 1]? = some (.word path)

def afterRedirect (items : List Item) : Nat → Bool
  | 0 => false
  | i + 1 =>
    match items[i]? with
    | some (.redirect _) => true
    | _ => false

/-- The word at a position, unless a redirection takes it. -/
def ownWord? (items : List Item) (i : Nat) : Option String :=
  match items[i]? with
  | some (.word w) => if afterRedirect items i then none else some w
  | _ => none

def ownWords (items : List Item) : List String :=
  (List.range items.length).filterMap (ownWord? items)

/-- The redirection at a position breaks a rule: no word follows it, or it has its file but another
one of its kind stands before it. -/
inductive Faulty (items : List Item) : Nat → ParseError → Prop
  | missingTarget {i : Nat} {r : Redirect} (here : Redirects items i r)
      (untargeted : ∀ path, items[i + 1]? ≠ some (.word path)) :
      Faulty items i (.missingTarget r)
  | duplicateInput {i j : Nat} {path : String} (here : Takes items i .input path)
      (before : j < i) (other : Redirects items j .input) :
      Faulty items i .duplicateInput
  | duplicateOutput {i j : Nat} {mode mode' : WriteMode} {path : String}
      (here : Takes items i (.output mode) path) (before : j < i)
      (other : Redirects items j (.output mode')) :
      Faulty items i .duplicateOutput

/-- The rules of a command, which is the last of its line or is not. -/
structure WellFormed (last : Prop) (items : List Item) : Prop where
  /-- Every redirection has its file. -/
  targeted : ∀ i r, Redirects items i r → ∃ path, Takes items i r path
  /-- The command has a word of its own. -/
  command : ownWords items ≠ []
  /-- At most one redirection is of the input. -/
  oneInput : ∀ i j, Redirects items i .input → Redirects items j .input → i = j
  /-- At most one redirection is of the output. -/
  oneOutput : ∀ i j mode mode', Redirects items i (.output mode) →
    Redirects items j (.output mode') → i = j
  /-- The output of a command before the last is not redirected. -/
  piped : ¬ last → ∀ i mode, ¬ Redirects items i (.output mode)

/-- The error of a command that breaks a rule. -/
inductive Violation (last : Prop) (items : List Item) : ParseError → Prop
  | redirection {i : Nat} {e : ParseError} (faulty : Faulty items i e)
      (first : ∀ j < i, ∀ e', ¬ Faulty items j e') : Violation last items e
  | emptyCommand (sound : ∀ i e, ¬ Faulty items i e) (wordless : ownWords items = []) :
      Violation last items .emptyCommand
  | conflictingOutput {i : Nat} {mode : WriteMode} (sound : ∀ i e, ¬ Faulty items i e)
      (command : ownWords items ≠ []) (followed : ¬ last)
      (output : Redirects items i (.output mode)) :
      Violation last items .conflictingOutput

/-- A stage is what a command says: its own words, the file of its input redirection, and a pipe
into the next command or else the file of its output redirection. -/
structure Describes (last : Prop) (items : List Item) (stage : Stage) : Prop where
  argv : stage.argv = ownWords items
  input : ∀ path, stage.input = some path ↔ ∃ i, Takes items i .input path
  piped : ¬ last → stage.output = .pipe
  unpiped : last → stage.output ≠ .pipe
  output : last → ∀ mode path, stage.output = .file mode path ↔
    ∃ i, Takes items i (.output mode) path

/-- The commands obey the rules, and the stages are what they say. -/
def Accepts (commands : List (List Item)) (stages : List Stage) : Prop :=
  stages.length = commands.length ∧
    ∀ i items, commands[i]? = some items → WellFormed (i + 1 = commands.length) items ∧
      ∃ stage, stages[i]? = some stage ∧ Describes (i + 1 = commands.length) items stage

/-- The leftmost of the commands that breaks a rule has the error. -/
def Rejects (commands : List (List Item)) (e : ParseError) : Prop :=
  ∃ i items, commands[i]? = some items ∧ Violation (i + 1 = commands.length) items e ∧
    ∀ j < i, ∀ items', commands[j]? = some items' → WellFormed (j + 1 = commands.length) items'

variable {items : List Item} {last : Prop} {i : Nat} {e e' : ParseError}

theorem Redirects.unique {r r' : Redirect} (h : Redirects items i r) (h' : Redirects items i r') :
    r = r' := by
  have hsame : some (Item.redirect r) = some (.redirect r') := Eq.trans (Eq.symm h) h'
  cases hsame
  rfl

theorem Faulty.exists_redirect (h : Faulty items i e) : ∃ r, Redirects items i r := by
  cases h with
  | missingTarget here _ => exact ⟨_, here⟩
  | duplicateInput here _ _ => exact ⟨_, here.1⟩
  | duplicateOutput here _ _ => exact ⟨_, here.1⟩

/-- A redirection breaks one rule at most. -/
theorem Faulty.unique (h : Faulty items i e) (h' : Faulty items i e') : e = e' := by
  cases h with
  | missingTarget here untargeted =>
      cases h' with
      | missingTarget here' _ => rw [here.unique here']
      | duplicateInput here' _ _ => exact absurd here'.2 (untargeted _)
      | duplicateOutput here' _ _ => exact absurd here'.2 (untargeted _)
  | duplicateInput here _ _ =>
      cases h' with
      | missingTarget _ untargeted => exact absurd here.2 (untargeted _)
      | duplicateInput _ _ _ => rfl
      | duplicateOutput here' _ _ =>
          have hsame := here.1.unique here'.1
          cases hsame
  | duplicateOutput here _ _ =>
      cases h' with
      | missingTarget _ untargeted => exact absurd here.2 (untargeted _)
      | duplicateInput here' _ _ =>
          have hsame := here.1.unique here'.1
          cases hsame
      | duplicateOutput _ _ _ => rfl

theorem exists_takes_of_sound (sound : ∀ e, ¬ Faulty items i e) {r : Redirect}
    (here : Redirects items i r) : ∃ path, Takes items i r path := by
  by_contra hnone
  refine sound _ (.missingTarget here ?_)
  intro path hpath
  exact hnone ⟨path, here, hpath⟩

theorem WellFormed.sound (h : WellFormed last items) (i : Nat) (e : ParseError) :
    ¬ Faulty items i e := by
  intro hfaulty
  cases hfaulty with
  | missingTarget here untargeted =>
      obtain ⟨path, -, hpath⟩ := h.targeted _ _ here
      exact untargeted path hpath
  | duplicateInput here before other =>
      exact Nat.ne_of_lt before (h.oneInput _ _ other here.1)
  | duplicateOutput here before other =>
      exact Nat.ne_of_lt before (h.oneOutput _ _ _ _ other here.1)

theorem wellFormed_of_sound (sound : ∀ i e, ¬ Faulty items i e) (command : ownWords items ≠ [])
    (piped : ¬ last → ∀ i mode, ¬ Redirects items i (.output mode)) :
    WellFormed last items := by
  have htargeted : ∀ i r, Redirects items i r → ∃ path, Takes items i r path :=
    fun i r => exists_takes_of_sound (sound i)
  have hinput : ∀ i j, Redirects items i .input → Redirects items j .input → ¬ i < j := by
    intro i j hi hj hlt
    obtain ⟨path, hpath⟩ := htargeted j _ hj
    exact sound j _ (.duplicateInput hpath hlt hi)
  have houtput : ∀ i j mode mode', Redirects items i (.output mode) →
      Redirects items j (.output mode') → ¬ i < j := by
    intro i j mode mode' hi hj hlt
    obtain ⟨path, hpath⟩ := htargeted j _ hj
    exact sound j _ (.duplicateOutput hpath hlt hi)
  refine ⟨htargeted, command, ?_, ?_, piped⟩
  · intro i j hi hj
    exact Nat.le_antisymm (Nat.not_lt.mp (hinput j i hj hi)) (Nat.not_lt.mp (hinput i j hi hj))
  · intro i j mode mode' hi hj
    exact Nat.le_antisymm (Nat.not_lt.mp (houtput j i _ _ hj hi))
      (Nat.not_lt.mp (houtput i j _ _ hi hj))

/-- A command with an error does not keep to the rules. -/
theorem Violation.not_wellFormed (h : Violation last items e) : ¬ WellFormed last items := by
  intro hformed
  cases h with
  | redirection faulty _ => exact hformed.sound _ _ faulty
  | emptyCommand _ wordless => exact hformed.command wordless
  | conflictingOutput _ _ followed output => exact hformed.piped followed _ _ output

/-- A command has one error at most. -/
theorem Violation.unique (h : Violation last items e) (h' : Violation last items e') : e = e' := by
  cases h with
  | @redirection i _ faulty first =>
      cases h' with
      | @redirection j _ faulty' first' =>
          -- neither position is before the other, as each is the first
          rcases Nat.lt_trichotomy i j with hlt | heq | hgt
          · exact absurd faulty (first' i hlt _)
          · subst heq
            exact faulty.unique faulty'
          · exact absurd faulty' (first j hgt _)
      | emptyCommand sound _ => exact absurd faulty (sound _ _)
      | conflictingOutput sound _ _ _ => exact absurd faulty (sound _ _)
  | emptyCommand sound wordless =>
      cases h' with
      | redirection faulty _ => exact absurd faulty (sound _ _)
      | emptyCommand _ _ => rfl
      | conflictingOutput _ command _ _ => exact absurd wordless command
  | conflictingOutput sound command _ _ =>
      cases h' with
      | redirection faulty _ => exact absurd faulty (sound _ _)
      | emptyCommand _ wordless => exact absurd wordless command
      | conflictingOutput _ _ _ _ => rfl

/-- A line has one error at most. -/
theorem Rejects.unique {commands : List (List Item)} (h : Rejects commands e)
    (h' : Rejects commands e') : e = e' := by
  obtain ⟨i, items, hitems, hviolation, hbefore⟩ := h
  obtain ⟨j, items', hitems', hviolation', hbefore'⟩ := h'
  rcases Nat.lt_trichotomy i j with hlt | heq | hgt
  · exact absurd (hbefore' i hlt items hitems) hviolation.not_wellFormed
  · subst heq
    obtain rfl : items = items' := Option.some.inj (hitems.symm.trans hitems')
    exact hviolation.unique hviolation'
  · exact absurd (hbefore j hgt items' hitems') hviolation'.not_wellFormed

end ShellPipeline.Grammar
