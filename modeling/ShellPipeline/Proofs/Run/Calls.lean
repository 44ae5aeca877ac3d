import ShellPipeline.Proofs.Run.Requests

/-!
# Processes that are started and awaited

Apart from the events of connecting stages, a run notes the processes it creates, then an attempt
that was refused, if there was one, then the waits. Every process that was created is waited for
once, in the order of the stages and after the last attempt to create one.
-/

namespace ShellPipeline

variable {α η : Type}

def withoutSetup (events : List (Event α η)) : List (Event α η) :=
  events.filter fun e => !e.isSetup

def Event.isCall : Event α η → Bool
  | .spawn .. => true
  | .wait .. => true
  | _ => false

def calls (events : List (Event α η)) : List (Event α η) :=
  events.filter Event.isCall

def creations (launches : List (Launch α)) (processes : List η) : List (Event α η) :=
  List.zipWith (fun l process => .spawn l (.ok process)) launches processes

/-- The attempt to create a process that was refused, if there was one. -/
def refusal (refused : Option (Launch α × Fault)) : List (Event α η) :=
  refused.toList.map fun q => .spawn q.1 (.error q.2)

def abortings (stages : List Stage) (index : Nat) (fault : Option Fault) : List Warning :=
  fault.toList.map fun f => .aborting index (stages[index]?.elim "" Stage.program) f

def waits (first : Nat) (processes : List η) (outcomes : List (Except Fault Exit)) :
    List (Event α η) :=
  ((processes.zip outcomes).zipIdx first).map fun q => .wait q.2 q.1.1 q.1.2

theorem wait_mem_waits {processes : List η} {outcomes : List (Except Fault Exit)} {i : Nat}
    {process : η} {outcome : Except Fault Exit} (hprocess : processes[i]? = some process)
    (houtcome : outcomes[i]? = some outcome) :
    (.wait i process outcome : Event α η) ∈ waits 0 processes outcomes := by
  refine List.mem_map.mpr ⟨((process, outcome), i), List.mem_iff_getElem?.mpr ⟨i, ?_⟩, rfl⟩
  simp [List.getElem?_zipIdx, List.getElem?_zip_eq_some, hprocess, houtcome]

@[simp] theorem withoutSetup_append (l l' : List (Event α η)) :
    withoutSetup (l ++ l') = withoutSetup l ++ withoutSetup l' :=
  List.filter_append ..

theorem withoutSetup_eq_nil {l : List (Event α η)} (h : ∀ e ∈ l, e.isSetup = true) :
    withoutSetup l = [] := by
  simpa [withoutSetup] using h

theorem calls_withoutSetup (events : List (Event α η)) :
    calls (withoutSetup events) = calls events := by
  rw [calls, withoutSetup, List.filter_filter]
  refine List.filter_congr fun e _ => ?_
  cases e <;> rfl

@[simp] theorem calls_append (l l' : List (Event α η)) : calls (l ++ l') = calls l ++ calls l' :=
  List.filter_append ..

theorem calls_creations (launches : List (Launch α)) (processes : List η) :
    calls (creations launches processes) = creations launches processes := by
  induction launches generalizing processes with
  | nil => rfl
  | cons l launches ih =>
      cases processes with
      | nil => rfl
      | cons process processes => exact congrArg (_ :: ·) (ih processes)

theorem calls_refusal (refused : Option (Launch α × Fault)) :
    calls (refusal refused : List (Event α η)) = refusal refused := by
  cases refused <;> rfl

theorem calls_reapTrace (last first : Nat) (processes : List η)
    (outcomes : List (Except Fault Exit)) :
    calls (reapTrace last first processes outcomes : List (Event α η)) =
      waits first processes outcomes := by
  rw [calls, reapTrace, List.filter_flatMap, waits, List.map_eq_flatMap]
  refine List.flatMap_congr fun q _ => ?_
  obtain ⟨⟨process, outcome⟩, index⟩ := q
  rcases outcome with f | exit
  · by_cases h : index = last <;> simp only [reapEvents, h, if_true, if_false] <;> rfl
  · rfl

theorem withoutSetup_reapTrace (last first : Nat) (processes : List η)
    (outcomes : List (Except Fault Exit)) :
    withoutSetup (reapTrace last first processes outcomes : List (Event α η)) =
      reapTrace last first processes outcomes := by
  rw [withoutSetup, List.filter_eq_self]
  intro e he
  rcases mem_reapTrace he with ⟨index, process, outcome, rfl⟩ | ⟨w, rfl⟩ <;> rfl

theorem calls_notes (launches : List (Launch α)) (refused : Option (Launch α × Fault))
    (ws : List Warning) (last : Nat) (processes : List η) (outcomes : List (Except Fault Exit)) :
    calls (creations launches processes ++ refusal refused ++ ws.map .warn ++
        reapTrace last 0 processes outcomes) =
      creations launches processes ++ refusal refused ++ waits 0 processes outcomes := by
  have hwarns : calls (ws.map (.warn : Warning → Event α η)) = [] := by
    simp [calls, Event.isCall]
  rw [calls_append, calls_append, calls_append, calls_creations, calls_refusal, hwarns,
    calls_reapTrace, List.append_nil]

namespace Shell

variable {σ : Type} [Host σ α η] {s t : Shell σ α η}

theorem notes_of_spawn {index : Nat} {stage : Stage} {incoming : Option Nat} {r : Resolved}
    {outcome : Except Fault η} {u : Shell σ α η}
    (hr : s.resolve index stage incoming = (.ok r, u))
    (hs : u.spawn index stage r = (outcome, t)) :
    ∃ notes, t.events = s.events ++ notes ∧
      withoutSetup notes = [u.attempt index stage r outcome] := by
  obtain ⟨setup, hu, hsetup⟩ := setsUp_resolve s index stage incoming
  have ht := events_spawn u index stage r
  simp only [hr] at hu
  simp only [hs, hu, List.append_assoc] at ht
  refine ⟨_, ht, ?_⟩
  have hcloses : withoutSetup (r.wiring.descriptors.map (.close : Nat → Event α η)) = [] :=
    withoutSetup_eq_nil (by simp [Event.isSetup])
  have hattempt : withoutSetup [u.attempt index stage r outcome] =
      [u.attempt index stage r outcome] := rfl
  rw [withoutSetup_append, withoutSetup_eq_nil hsetup, List.nil_append,
    ← List.singleton_append, withoutSetup_append, hcloses, hattempt, List.append_nil]

/-- For the stages that were started only creations of processes are noted besides the connecting,
one for each stage. -/
theorem Started.notes {stages : List Stage} {processes : List η} {incoming : Option Nat}
    (h : Started s stages processes incoming t) :
    ∃ (notes : List (Event α η)) (launches : List (Launch α)),
      t.events = s.events ++ notes ∧
      launches.map (fun l => (l.stage, l.index)) = (stages.take processes.length).zipIdx ∧
      withoutSetup notes = creations launches processes := by
  induction h with
  | nil => exact ⟨[], [], (List.append_nil _).symm, by simp, rfl⟩
  | @concat processes incoming downstream u t' stage process _ next launch ih =>
      obtain ⟨notes, launches, hu, hlaunches, hnotes⟩ := ih
      obtain ⟨r, v, hr, hs, -⟩ := launch_eq_ok launch
      obtain ⟨more, ht, hmore⟩ := notes_of_spawn hr hs
      have hlt : processes.length < stages.length := (List.getElem?_eq_some_iff.mp next).1
      have hlength : launches.length = processes.length := by
        have hmap := congrArg List.length hlaunches
        simpa [Nat.le_of_lt hlt] using hmap
      refine ⟨notes ++ more, launches ++ [⟨processes.length, stage, r, v.descriptors⟩], ?_, ?_, ?_⟩
      · rw [ht, hu, List.append_assoc]
      · simp [List.take_add_one, next, List.zipIdx_append, hlaunches, Nat.le_of_lt hlt]
      · rw [withoutSetup_append, hnotes, hmore, creations, creations, List.zipWith_append hlength]
        rfl

theorem notes_of_launch_error {index : Nat} {stage : Stage} {incoming : Option Nat} {f : Fault}
    (h : s.launch index stage incoming = (.error f, t)) :
    ∃ (notes : List (Event α η)) (refused : Option (Launch α × Fault)),
      t.events = s.events ++ notes ∧ withoutSetup notes = refusal refused ∧
      ∀ q, refused = some q → q.1.index = index ∧ q.1.stage = stage ∧ q.2 = f := by
  rcases launch_eq_error h with hr | ⟨r, u, v, hr, hs, rfl⟩
  · obtain ⟨setup, ht, hsetup⟩ := setsUp_resolve s index stage incoming
    simp only [hr] at ht
    exact ⟨setup, none, ht, withoutSetup_eq_nil hsetup, by simp⟩
  · obtain ⟨notes, hv, hnotes⟩ := notes_of_spawn hr hs
    refine ⟨notes ++ r.downstream.toList.map .close, some (⟨index, stage, r, u.descriptors⟩, f),
      ?_, ?_, ?_⟩
    · rw [events_closeAll, hv, List.append_assoc]
    · rw [withoutSetup_append, hnotes, withoutSetup_eq_nil (by simp [Event.isSetup])]
      rfl
    · intro q hq
      cases hq
      exact ⟨rfl, rfl, rfl⟩

/-- What the starting notes besides the events of connecting: the processes that were created, an
attempt that was refused, and the warning that no more stages are started. -/
theorem LaunchEnds.notes {stages : List Stage} {processes : List η} {leftover : Option Nat}
    {fault : Option Fault} (h : LaunchEnds s stages processes leftover fault t) :
    ∃ (notes : List (Event α η)) (launches : List (Launch α))
      (refused : Option (Launch α × Fault)),
      t.events = s.events ++ notes ∧
      launches.map (fun l => (l.stage, l.index)) = (stages.take processes.length).zipIdx ∧
      (∀ q, refused = some q → q.1.index = processes.length ∧
        stages[processes.length]? = some q.1.stage ∧ fault = some q.2) ∧
      withoutSetup notes = creations launches processes ++ refusal refused ++
        (abortings stages processes.length fault).map .warn := by
  cases h with
  | all started _ =>
      obtain ⟨notes, launches, ht, hlaunches, hnotes⟩ := started.notes
      exact ⟨notes, launches, none, ht, hlaunches, by simp,
        by simp [hnotes, refusal, abortings]⟩
  | @fault incoming u t' stage f started next launch =>
      obtain ⟨notes, launches, hu, hlaunches, hnotes⟩ := started.notes
      obtain ⟨more, refused, ht, hmore, hrefused⟩ := notes_of_launch_error launch
      refine ⟨notes ++ more ++ [.warn (.aborting processes.length stage.program f)], launches,
        refused, ?_, hlaunches, ?_, ?_⟩
      · rw [events_warn, ht, hu, List.append_assoc, List.append_assoc, List.append_assoc]
      · intro q hq
        obtain ⟨hindex, hstage, hfault⟩ := hrefused q hq
        exact ⟨hindex, by rw [next, hstage], by rw [hfault]⟩
      · rw [withoutSetup_append, withoutSetup_append, hnotes, hmore]
        simp [abortings, next, withoutSetup, Event.isSetup]

theorem LaunchEnds.length_launches {stages : List Stage} {processes : List η}
    {leftover : Option Nat} {fault : Option Fault} {launches : List (Launch α)}
    (h : LaunchEnds s stages processes leftover fault t)
    (hlaunches : launches.map (fun l => (l.stage, l.index)) =
      (stages.take processes.length).zipIdx) : launches.length = processes.length := by
  have hmap := congrArg List.length hlaunches
  simpa [h.length_le] using hmap

/-- What a run notes besides the connecting of stages, and the result that belongs to it. -/
theorem run_notes (s : Shell σ α η) (p : Pipeline) :
    ∃ (processes : List η) (leftover : Option Nat) (fault : Option Fault) (t : Shell σ α η)
      (launches : List (Launch α)) (refused : Option (Launch α × Fault))
      (outcomes : List (Except Fault Exit)),
      LaunchEnds s p.stages processes leftover fault t ∧
      launches.map (fun l => (l.stage, l.index)) = (p.stages.take processes.length).zipIdx ∧
      (∀ q, refused = some q → q.1.index = processes.length ∧
        p.stages[processes.length]? = some q.1.stage ∧ fault = some q.2) ∧
      outcomes.length = processes.length ∧
      (s.run p).2.events = t.events ++ leftover.toList.map .close ++
        reapTrace p.lastIndex 0 processes outcomes ∧
      withoutSetup (s.trace p) = creations launches processes ++ refusal refused ++
        (abortings p.stages processes.length fault).map .warn ++
          reapTrace p.lastIndex 0 processes outcomes ∧
      (s.run p).1 = verdict fault outcomes[p.lastIndex]? := by
  obtain ⟨processes, leftover, fault, t, outcomes, hends, hlength, -, hevents, hresult⟩ :=
    run_phases s p
  obtain ⟨notes, launches, refused, ht, hlaunches, hrefused, hnotes⟩ := hends.notes
  refine ⟨processes, leftover, fault, t, launches, refused, outcomes, hends, hlaunches, hrefused,
    hlength, hevents, ?_, hresult⟩
  have htrace : s.trace p = notes ++ (leftover.toList.map .close ++
      reapTrace p.lastIndex 0 processes outcomes) := by
    apply trace_eq_of_events
    rw [hevents, ht, List.append_assoc, List.append_assoc]
  have hcloses : withoutSetup (leftover.toList.map (.close : Nat → Event α η)) = [] :=
    withoutSetup_eq_nil (by simp [Event.isSetup])
  rw [htrace, withoutSetup_append, withoutSetup_append, hnotes, hcloses, withoutSetup_reapTrace,
    List.nil_append]

/-- In a run that goes by its trace, whoever is waited for is waited for by asking the system. -/
theorem asked_wait_of_calls {p : Pipeline} {before : List (Event α η)} {processes : List η}
    {outcomes : List (Except Fault Exit)} {i : Nat} {process : η} {outcome : Except Fault Exit}
    (hcalls : calls (s.trace p) = before ++ waits 0 processes outcomes)
    (hprocess : processes[i]? = some process) (houtcome : outcomes[i]? = some outcome) :
    ∃ earlier later, s.AskedAt (s.run p).2 earlier (.wait i process outcome) later
      (Host.wait i process) outcome ∧ s.trace p = earlier ++ .wait i process outcome :: later := by
  have hcall : .wait i process outcome ∈ calls (s.trace p) := by
    rw [hcalls]
    exact List.mem_append_right _ (wait_mem_waits hprocess houtcome)
  obtain ⟨earlier, later, htrace⟩ := List.append_of_mem (List.mem_filter.mp hcall).1
  exact ⟨earlier, later, (htrace ▸ follows_trace s p).asked_wait, htrace⟩

/-- The processes of the first stages are created in order, each from its own stage and position,
up to the first stage that cannot be started, for which at most one attempt is refused. Then, and
only then, every process that was created is waited for once, in the same order and whatever comes
of the waits. If not all stages are started, this is why the system refused a request that was made
for the next one, and after that nothing more is opened or created. Every creation, every refusal
and every wait is what the system answered when it was asked. -/
theorem run_calls (s : Shell σ α η) (p : Pipeline) :
    ∃ (processes : List η) (fault : Option Fault) (launches : List (Launch α))
      (refused : Option (Launch α × Fault)) (outcomes : List (Except Fault Exit)),
      s.Follows (s.trace p) (s.run p).2 ∧
      calls (s.trace p) = creations launches processes ++ refusal refused ++
        waits 0 processes outcomes ∧
      launches.length = processes.length ∧ outcomes.length = processes.length ∧
      launches.map (fun l => (l.stage, l.index)) = (p.stages.take processes.length).zipIdx ∧
      (fault = none ↔ processes.length = p.length) ∧
      (∀ launch f, refused = some (launch, f) → launch.index = processes.length ∧
        p.stages[processes.length]? = some launch.stage ∧ fault = some f) ∧
      (∀ f, fault = some f → ∃ stage, p.stages[processes.length]? = some stage ∧
        s.StopsAt (s.trace p) processes.length stage f) ∧
      AsksFrom 0 p.stages (acquisitions (s.trace p)) ∧
      (∀ before launch outcome after, s.trace p = before ++ .spawn launch outcome :: after →
        s.AskedAt (s.run p).2 before (.spawn launch outcome) after (Host.spawn launch) outcome) ∧
      ∀ before index process outcome after,
        s.trace p = before ++ .wait index process outcome :: after →
          s.AskedAt (s.run p).2 before (.wait index process outcome) after
            (Host.wait index process) outcome := by
  obtain ⟨processes, leftover, fault, t, launches, refused, outcomes, hends, hlaunches, hrefused,
    hlength, hevents, htrace, -⟩ := run_notes s p
  have hfollows := follows_trace s p
  refine ⟨processes, fault, launches, refused, outcomes, hfollows, ?_,
    hends.length_launches hlaunches, hlength, hlaunches, hends.fault_eq_none_iff,
    fun launch f => hrefused (launch, f), ?_, asksFrom_trace s p, ?_, ?_⟩
  · rw [← calls_withoutSetup, htrace, calls_notes]
  · rintro f rfl
    exact stopsAt_trace hends hevents
  · intro before launch outcome after heq
    exact (heq ▸ hfollows).asked_spawn
  · intro before index process outcome after heq
    exact (heq ▸ hfollows).asked_wait

end Shell

end ShellPipeline
