import ShellPipeline.Run.Exit

/-!
# Builtins and their registry

A builtin is a command that acts on the shell itself. It is given its words, its own name first,
and the previous status, and it answers with a status; it may also ask the shell to exit. A
registry keeps builtins under their names in the order in which they were registered. Of several
builtins with one name, the first is found.
-/

namespace ShellPipeline

/-- What came of a line: the new status, and whether the shell was asked to exit. -/
structure Outcome where
  status : Status
  exit : Bool := false
deriving DecidableEq, Repr

/-- A builtin on states `τ`. It takes its words, the previous status and whether the shell was
already asked to exit. -/
abbrev Handler (τ : Type) := List String → Status → Bool → τ → Outcome × τ

/-- Builtins under their names. -/
structure Registry (τ : Type) where
  /-- The builtins in the order of their registration. -/
  entries : List (String × Handler τ) := []

namespace Registry

variable {τ : Type}

def register (r : Registry τ) (name : String) (h : Handler τ) : Registry τ :=
  ⟨r.entries ++ [(name, h)]⟩

def lookup (r : Registry τ) (name : String) : Option (Handler τ) :=
  (r.entries.find? (·.1 = name)).map Prod.snd

def names (r : Registry τ) : List String :=
  r.entries.map Prod.fst

/-- The first builtin of a name is found. -/
theorem lookup_eq_some_iff {r : Registry τ} {name : String} {h : Handler τ} :
    r.lookup name = some h ↔
      ∃ before after, r.entries = before ++ (name, h) :: after ∧ name ∉ before.map Prod.fst := by
  constructor
  · intro hlookup
    obtain ⟨⟨name', h'⟩, hfind, rfl⟩ := Option.map_eq_some_iff.mp hlookup
    obtain ⟨hname, before, after, hentries, hbefore⟩ := List.find?_eq_some_iff_append.mp hfind
    obtain rfl : name' = name := by simpa using hname
    refine ⟨before, after, hentries, ?_⟩
    intro hmem
    obtain ⟨q, hq, heq⟩ := List.mem_map.mp hmem
    simpa [heq] using hbefore q hq
  · rintro ⟨before, after, hentries, hbefore⟩
    refine Option.map_eq_some_iff.mpr ⟨(name, h), ?_, rfl⟩
    refine List.find?_eq_some_iff_append.mpr ⟨by simp, before, after, hentries, ?_⟩
    intro q hq
    have hne : q.1 ≠ name := fun heq => hbefore (List.mem_map.mpr ⟨q, hq, heq⟩)
    simpa using hne

theorem lookup_eq_none_iff {r : Registry τ} {name : String} :
    r.lookup name = none ↔ name ∉ r.names := by
  rw [lookup, Option.map_eq_none_iff, List.find?_eq_none, names]
  simp only [decide_eq_true_eq, List.mem_map, not_exists, not_and]

end Registry

end ShellPipeline
