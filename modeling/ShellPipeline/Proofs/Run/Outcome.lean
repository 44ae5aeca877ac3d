import ShellPipeline.Proofs.Run.Calls

/-!
# The result of a run

A fault of starting a stage is the result of a run whatever comes of the waits. Otherwise the wait
for the last stage decides. What comes of the other waits is only warned about.
-/

namespace ShellPipeline

variable {α η : Type}

/-- The warnings about stages that could not be waited for, the one at `last` left out. -/
def unreaped (last first : Nat) (outcomes : List (Except Fault Exit)) : List Warning :=
  (outcomes.zipIdx first).filterMap fun q =>
    match q.1 with
    | .error f => if q.2 = last then none else some (.notReaped q.2 f)
    | .ok _ => none

theorem warnings_append (l l' : List (Event α η)) :
    Event.warnings (l ++ l') = Event.warnings l ++ Event.warnings l' :=
  List.filterMap_append

theorem warnings_withoutSetup (events : List (Event α η)) :
    Event.warnings (withoutSetup events) = Event.warnings events := by
  rw [Event.warnings, withoutSetup, List.filterMap_filter]
  refine List.filterMap_congr fun e _ => ?_
  cases e <;> rfl

theorem warnings_map_warn (ws : List Warning) :
    Event.warnings (ws.map (.warn : Warning → Event α η)) = ws := by
  induction ws with
  | nil => rfl
  | cons w ws ih => exact congrArg (w :: ·) ih

theorem warnings_creations (launches : List (Launch α)) (processes : List η) :
    Event.warnings (creations launches processes) = [] := by
  induction launches generalizing processes with
  | nil => rfl
  | cons l launches ih =>
      cases processes with
      | nil => rfl
      | cons process processes => exact ih processes

theorem warnings_refusal (refused : Option (Launch α × Fault)) :
    Event.warnings (refusal refused : List (Event α η)) = [] := by
  cases refused <;> rfl

theorem warnings_reapTrace (last first : Nat) {processes : List η}
    {outcomes : List (Except Fault Exit)} (h : outcomes.length = processes.length) :
    Event.warnings (reapTrace last first processes outcomes : List (Event α η)) =
      unreaped last first outcomes := by
  induction processes generalizing first outcomes with
  | nil =>
      obtain rfl := List.length_eq_zero_iff.mp h
      rfl
  | cons process processes ih =>
      cases outcomes with
      | nil => cases h
      | cons outcome outcomes =>
          have hrest := ih (first + 1) (Nat.succ.inj h)
          have hcons : (reapTrace last first (process :: processes) (outcome :: outcomes) :
              List (Event α η)) = reapEvents last first process outcome ++
                reapTrace last (first + 1) processes outcomes := rfl
          rw [hcons, warnings_append, hrest]
          rcases outcome with f | exit
          · by_cases hlast : first = last <;>
              simp [reapEvents, unreaped, hlast, Event.warnings]
          · rfl

theorem warnings_notes (launches : List (Launch α)) (refused : Option (Launch α × Fault))
    (ws : List Warning) (last : Nat) {processes : List η} {outcomes : List (Except Fault Exit)}
    (h : outcomes.length = processes.length) :
    Event.warnings (creations launches processes ++ refusal refused ++ ws.map .warn ++
      reapTrace last 0 processes outcomes) = ws ++ unreaped last 0 outcomes := by
  rw [warnings_append, warnings_append, warnings_append, warnings_creations, warnings_refusal,
    warnings_map_warn, warnings_reapTrace _ _ h]
  rfl

namespace Shell

theorem signaled_of_verdict {outcome : Except Fault Exit}
    (hcode : ∀ code, outcome = .ok (.exited code) → 0 ≤ code)
    (h : verdict none (some outcome) = .ok (-1)) : ∃ signal, outcome = .ok (.signaled signal) := by
  rcases outcome with f | code | signal
  · cases h
  · have hnegative : code = -1 := by simpa [verdict, Except.map, Exit.status] using h
    exact absurd (hcode code rfl) (by rw [hnegative]; decide)
  · exact ⟨signal, rfl⟩

variable {σ : Type} [Host σ α η]

/-- The result of a run and its warnings. If the system refuses a request that is made to start a
stage, this is the result, whatever comes of the waits. Otherwise it is what the system answered
when it was asked to wait for the last stage, a signal counting as the status -1. The warnings are
the one about a stage that could not be started and then those about stages before the last that
could not be waited for. So unless an exit code is negative, the status -1 means that every stage
was started and that a signal ended the last. -/
theorem run_outcome (s : Shell σ α η) (p : Pipeline) :
    ∃ (processes : List η) (fault : Option Fault) (launches : List (Launch α))
      (refused : Option (Launch α × Fault)) (outcomes : List (Except Fault Exit)),
      s.Follows (s.trace p) (s.run p).2 ∧
      calls (s.trace p) = creations launches processes ++ refusal refused ++
        waits 0 processes outcomes ∧
      launches.length = processes.length ∧ outcomes.length = processes.length ∧
      (∀ (i : Nat) (process : η) (outcome : Except Fault Exit), processes[i]? = some process →
        outcomes[i]? = some outcome → ∃ before after,
          s.AskedAt (s.run p).2 before (.wait i process outcome) after (Host.wait i process)
            outcome ∧ s.trace p = before ++ .wait i process outcome :: after) ∧
      (∀ f, fault = some f → (s.run p).1 = .error f ∧
        ∃ stage, p.stages[processes.length]? = some stage ∧
          s.StopsAt (s.trace p) processes.length stage f ∧
          Event.warnings (s.trace p) =
            .aborting processes.length stage.program f :: unreaped p.lastIndex 0 outcomes) ∧
      (fault = none → processes.length = p.length ∧
        Event.warnings (s.trace p) = unreaped p.lastIndex 0 outcomes ∧
        ((∃ f, outcomes[p.lastIndex]? = some (.error f) ∧ (s.run p).1 = .error f) ∨
          (∃ code, outcomes[p.lastIndex]? = some (.ok (.exited code)) ∧
            (s.run p).1 = .ok code) ∨
          ∃ signal, outcomes[p.lastIndex]? = some (.ok (.signaled signal)) ∧
            (s.run p).1 = .ok (-1))) ∧
      ((∀ code, outcomes[p.lastIndex]? = some (.ok (.exited code)) → 0 ≤ code) →
        (s.run p).1 = .ok (-1) → processes.length = p.length ∧
          ∃ signal, outcomes[p.lastIndex]? = some (.ok (.signaled signal))) := by
  obtain ⟨processes, leftover, fault, t, launches, refused, outcomes, hends, hlaunches, -, hlength,
    hevents, htrace, hresult⟩ := run_notes s p
  have hcalls : calls (s.trace p) = creations launches processes ++ refusal refused ++
      waits 0 processes outcomes := by
    rw [← calls_withoutSetup, htrace, calls_notes]
  have hwarnings : Event.warnings (s.trace p) =
      abortings p.stages processes.length fault ++ unreaped p.lastIndex 0 outcomes := by
    rw [← warnings_withoutSetup, htrace, warnings_notes _ _ _ _ hlength]
  have hall : fault = none → processes.length = p.length := hends.fault_eq_none_iff.mp
  have hlast : fault = none → ∃ outcome, outcomes[p.lastIndex]? = some outcome := by
    intro hnone
    have hlt : p.lastIndex < outcomes.length := by
      rw [hlength, hall hnone]
      exact p.lastIndex_lt_length
    exact ⟨_, List.getElem?_eq_getElem hlt⟩
  refine ⟨processes, fault, launches, refused, outcomes, follows_trace s p, hcalls,
    hends.length_launches hlaunches, hlength, ?_, ?_, ?_, ?_⟩
  · exact fun i process outcome => asked_wait_of_calls hcalls
  · rintro f rfl
    obtain ⟨stage, hstage, hstops⟩ := stopsAt_trace hends hevents
    refine ⟨hresult, stage, hstage, hstops, ?_⟩
    simpa [abortings, hstage] using hwarnings
  · rintro rfl
    obtain ⟨outcome, houtcome⟩ := hlast rfl
    rw [houtcome] at hresult
    refine ⟨hall rfl, hwarnings, ?_⟩
    rcases outcome with f | code | signal
    · exact Or.inl ⟨f, houtcome, hresult⟩
    · exact Or.inr (Or.inl ⟨code, houtcome, hresult⟩)
    · exact Or.inr (Or.inr ⟨signal, houtcome, hresult⟩)
  · intro hcodes hfailed
    rw [hresult] at hfailed
    cases fault with
    | some f => cases hfailed
    | none =>
        obtain ⟨outcome, houtcome⟩ := hlast rfl
        rw [houtcome] at hfailed
        obtain ⟨signal, rfl⟩ :=
          signaled_of_verdict (fun code hcode => hcodes code (by rw [houtcome, hcode])) hfailed
        exact ⟨hall rfl, signal, houtcome⟩

end Shell

end ShellPipeline
