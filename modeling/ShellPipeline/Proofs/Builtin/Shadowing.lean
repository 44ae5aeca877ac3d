import ShellPipeline.Session.Dispatch

/-!
# Builtins that share a name

A registry grows at its end and is searched from its beginning. A builtin that is found keeps its
name for good: those registered under it later are listed, but no line gets to them.
-/

namespace ShellPipeline

namespace Registry

variable {τ : Type} {r : Registry τ} {name : String} {h : Handler τ}

def registerAll (r : Registry τ) (builtins : List (String × Handler τ)) : Registry τ :=
  builtins.foldl (fun r b => r.register b.1 b.2) r

theorem entries_registerAll (r : Registry τ) (builtins : List (String × Handler τ)) :
    (r.registerAll builtins).entries = r.entries ++ builtins := by
  induction builtins generalizing r with
  | nil => exact (List.append_nil _).symm
  | cons b builtins ih =>
      have hone : (r.register b.1 b.2).entries = r.entries ++ [b] := rfl
      rw [registerAll, List.foldl_cons]
      exact (ih (r.register b.1 b.2)).trans (by rw [hone, List.append_assoc]; rfl)

theorem entries_registerAll_empty (builtins : List (String × Handler τ)) :
    (registerAll {} builtins).entries = builtins :=
  entries_registerAll {} builtins

/-- What is registered later is found only if nothing was found before. -/
theorem lookup_registerAll (r : Registry τ) (builtins : List (String × Handler τ)) (name : String) :
    (r.registerAll builtins).lookup name
      = (r.lookup name).or ((registerAll {} builtins).lookup name) := by
  simp only [lookup, entries_registerAll, List.find?_append, Option.map_or]
  rfl

/-- A builtin that was found stays the one that is found when others are registered. -/
theorem lookup_registerAll_of_some (hfound : r.lookup name = some h)
    (builtins : List (String × Handler τ)) : (r.registerAll builtins).lookup name = some h := by
  rw [lookup_registerAll, hfound, Option.some_or]

/-- A lookup changes only if it had failed, and only under a name that is new. -/
theorem of_lookup_registerAll_ne {builtins : List (String × Handler τ)}
    (hchanged : (r.registerAll builtins).lookup name ≠ r.lookup name) :
    r.lookup name = none ∧ name ∈ builtins.map Prod.fst := by
  rw [lookup_registerAll] at hchanged
  rcases hfound : r.lookup name with _ | h
  · refine ⟨rfl, Decidable.byContradiction fun hnew => ?_⟩
    have hnone : (registerAll {} builtins).lookup name = none := by
      rwa [lookup_eq_none_iff, names, entries_registerAll_empty]
    exact hchanged (by rw [hfound, hnone]; rfl)
  · exact absurd (by rw [hfound]; rfl) hchanged

end Registry

namespace Session

variable {σ α η : Type} [Host σ α η] [Console σ] {r : Registry (Session σ α η)} {line : String}
  {p : Pipeline} {h : Handler (Session σ α η)}

/-- Of all builtins, a line can only get to the one that is found under the name of its first
program. -/
theorem dispatch_of_lookup_eq_some (hparse : parse line = .ok (some p))
    (hfound : r.lookup p.first.program = some h) (last : Status) (s : Session σ α η) :
    dispatch r line last s = if p.isPlain then h p.first.argv last false s
      else (⟨failureStatus, false⟩,
        s.complain (p.first.program ++ ": builtins cannot be piped or redirected")) := by
  simp only [dispatch, Registry.route, hparse, Registry.routePipeline, hfound]
  split <;> rfl

/-- A line whose first word names no builtin is run as a pipeline. -/
theorem dispatch_of_lookup_eq_none (hparse : parse line = .ok (some p))
    (hnone : r.lookup p.first.program = none) (last : Status) (s : Session σ α η) :
    dispatch r line last s = s.runPipeline p := by
  simp only [dispatch, Registry.route, hparse, Registry.routePipeline, hnone]
  rfl

/-- The builtin of a name is the one that was registered under it first, and there is none if none
was. Further registrations do not change what was found, and what was not found only under their own
names. All names are listed, in the order of their registration. A line whose first program is the
name of a builtin is handed to the first builtin of that name or to none; every other line is run as
a pipeline of programs. -/
theorem registerAll_shadows (builtins : List (String × Handler (Session σ α η))) :
    (∀ name h, (Registry.registerAll {} builtins).lookup name = some h ↔
      ∃ before after, builtins = before ++ (name, h) :: after ∧ name ∉ before.map Prod.fst) ∧
    (∀ name, (Registry.registerAll {} builtins).lookup name = none ↔
      name ∉ builtins.map Prod.fst) ∧
    (∀ name h more, (Registry.registerAll {} builtins).lookup name = some h →
      ((Registry.registerAll {} builtins).registerAll more).lookup name = some h) ∧
    (∀ name more, ((Registry.registerAll {} builtins).registerAll more).lookup name
        ≠ (Registry.registerAll {} builtins).lookup name →
      (Registry.registerAll {} builtins).lookup name = none ∧ name ∈ more.map Prod.fst) ∧
    (∀ more, ((Registry.registerAll {} builtins).registerAll more).names
      = builtins.map Prod.fst ++ more.map Prod.fst) ∧
    ∀ line p, parse line = .ok (some p) → ∀ last (s : Session σ α η),
      (∀ before h after, builtins = before ++ (p.first.program, h) :: after →
        p.first.program ∉ before.map Prod.fst →
        dispatch (.registerAll {} builtins) line last s =
          if p.isPlain then h p.first.argv last false s
          else (⟨failureStatus, false⟩,
            s.complain (p.first.program ++ ": builtins cannot be piped or redirected"))) ∧
      (p.first.program ∉ builtins.map Prod.fst →
        dispatch (.registerAll {} builtins) line last s = s.runPipeline p) := by
  have hfound : ∀ name h, (Registry.registerAll {} builtins).lookup name = some h ↔
      ∃ before after, builtins = before ++ (name, h) :: after ∧ name ∉ before.map Prod.fst := by
    intro name h
    rw [Registry.lookup_eq_some_iff, Registry.entries_registerAll_empty]
  have hnone : ∀ name, (Registry.registerAll {} builtins).lookup name = none ↔
      name ∉ builtins.map Prod.fst := by
    intro name
    rw [Registry.lookup_eq_none_iff, Registry.names, Registry.entries_registerAll_empty]
  refine ⟨hfound, hnone, fun name h more hsome => Registry.lookup_registerAll_of_some hsome more,
    fun name more => Registry.of_lookup_registerAll_ne, ?_, ?_⟩
  · intro more
    rw [Registry.names, Registry.entries_registerAll, Registry.entries_registerAll_empty,
      List.map_append]
  · intro line p hparse last s
    constructor
    · intro before h after hbuiltins hbefore
      have hfirst := (hfound p.first.program h).mpr ⟨before, after, hbuiltins, hbefore⟩
      exact dispatch_of_lookup_eq_some hparse hfirst last s
    · intro hnew
      exact dispatch_of_lookup_eq_none hparse ((hnone p.first.program).mpr hnew) last s

end Session

end ShellPipeline
