import Mathlib.Data.List.Basic
import ShellPipeline.Run.Pipeline

/-!
# The phases of a run

A run starts stages, closes a pipe that nobody reads, and waits. This module says what each phase
notes. The states in which a stage is started are described by `Started`, an induction over the
stages that could be started; what holds throughout the starting is an invariant of it.
-/

namespace ShellPipeline

def Event.isSetup {α η : Type} : Event α η → Bool
  | .openInput .. => true
  | .openOutput .. => true
  | .makePipe .. => true
  | .close _ => true
  | _ => false

def numbered {η : Type} (first : Nat) (processes : List η) : List (Nat × η) :=
  (processes.zipIdx first).map Prod.swap

@[simp] theorem numbered_nil {η : Type} (first : Nat) : numbered first ([] : List η) = [] := rfl

@[simp] theorem numbered_cons {η : Type} (first : Nat) (process : η) (processes : List η) :
    numbered first (process :: processes) = (first, process) :: numbered (first + 1) processes :=
  rfl

theorem numbered_concat {η : Type} (first : Nat) (processes : List η) (process : η) :
    numbered first (processes ++ [process]) =
      numbered first processes ++ [(first + processes.length, process)] := by
  simp [numbered, List.zipIdx_append]

def reapEvents {α η : Type} (last index : Nat) (process : η) (outcome : Except Fault Exit) :
    List (Event α η) :=
  .wait index process outcome ::
    match outcome with
    | .error f => if index = last then [] else [.warn (.notReaped index f)]
    | .ok _ => []

def reapTrace {α η : Type} (last first : Nat) (processes : List η)
    (outcomes : List (Except Fault Exit)) : List (Event α η) :=
  ((processes.zip outcomes).zipIdx first).flatMap fun q => reapEvents last q.2 q.1.1 q.1.2

theorem mem_reapTrace {α η : Type} {last first : Nat} {processes : List η}
    {outcomes : List (Except Fault Exit)} {e : Event α η}
    (h : e ∈ reapTrace last first processes outcomes) :
    (∃ index process outcome, e = .wait index process outcome) ∨ ∃ w, e = .warn w := by
  obtain ⟨⟨⟨process, outcome⟩, index⟩, -, hq⟩ := List.mem_flatMap.mp h
  rcases List.mem_cons.mp hq with rfl | hq
  · exact Or.inl ⟨_, _, _, rfl⟩
  · rcases outcome with f | exit
    · by_cases hlast : index = last
      · simp [hlast] at hq
      · exact Or.inr ⟨.notReaped index f, by simpa [hlast] using hq⟩
    · cases hq

theorem Pipeline.lastIndex_lt_length (p : Pipeline) : p.lastIndex < p.length :=
  Nat.sub_one_lt (mt List.length_eq_zero_iff.mp p.wellWired.ne_nil)

namespace Shell

section Notes

variable {σ α η : Type} {s t u : Shell σ α η}

@[simp] theorem events_note (s : Shell σ α η) (e : Event α η) :
    (s.note e).events = s.events ++ [e] := rfl

@[simp] theorem events_warn (s : Shell σ α η) (w : Warning) :
    (s.warn w).events = s.events ++ [.warn w] := rfl

/-- From one shell to the other only events of connecting a stage are noted. -/
def SetsUp (s t : Shell σ α η) : Prop :=
  ∃ notes, t.events = s.events ++ notes ∧ ∀ e ∈ notes, e.isSetup = true

theorem SetsUp.of_events_eq (h : t.events = s.events) : s.SetsUp t :=
  ⟨[], by simp [h], by simp⟩

theorem SetsUp.of_note {e : Event α η} (ht : t.events = s.events ++ [e])
    (he : e.isSetup = true) : s.SetsUp t :=
  ⟨[e], ht, by simpa using he⟩

theorem SetsUp.trans (h : s.SetsUp t) (h' : t.SetsUp u) : s.SetsUp u := by
  obtain ⟨notes, ht, hn⟩ := h
  obtain ⟨more, hu, hm⟩ := h'
  refine ⟨notes ++ more, by simp [hu, ht], ?_⟩
  intro e he
  rcases List.mem_append.mp he with he | he
  · exact hn e he
  · exact hm e he

end Notes

variable {σ α η : Type} [Host σ α η] {s t t' : Shell σ α η}

/-! ## Connecting a stage -/

@[simp] theorem events_closeAll (s : Shell σ α η) (fds : List Nat) :
    (s.closeAll fds).events = s.events ++ fds.map .close := by
  induction fds generalizing s with
  | nil => simp [closeAll]
  | cons fd fds ih =>
      have hclose : (s.close fd).events = s.events ++ [.close fd] := rfl
      have hall : s.closeAll (fd :: fds) = (s.close fd).closeAll fds := rfl
      rw [hall, ih, hclose]
      simp

theorem setsUp_closeAll (s : Shell σ α η) (fds : List Nat) : s.SetsUp (s.closeAll fds) := by
  refine ⟨fds.map .close, events_closeAll s fds, ?_⟩
  intro e he
  obtain ⟨fd, -, rfl⟩ := List.mem_map.mp he
  rfl

theorem setsUp_openInput (s : Shell σ α η) (path : String) : s.SetsUp (s.openInput path).2 := by
  unfold openInput
  split <;> exact .of_note rfl rfl

theorem setsUp_openOutput (s : Shell σ α η) (mode : WriteMode) (path : String) :
    s.SetsUp (s.openOutput mode path).2 := by
  unfold openOutput
  split <;> exact .of_note rfl rfl

theorem events_protectBoth (s : Shell σ α η) (r w : α) :
    (s.protectBoth r w).2.events = s.events := by
  unfold protectBoth
  split <;> rfl

theorem setsUp_makePipe (s : Shell σ α η) (stage : Nat) : s.SetsUp (s.makePipe stage).2 := by
  unfold makePipe
  rcases Host.makePipe s.host with ⟨e | ⟨r, w⟩, host⟩
  · exact .of_note rfl rfl
  · dsimp only
    -- the pipe is noted before its ends are kept from programs, which notes nothing
    set made : Shell σ α η := note _ _ with hmade
    have hnoted : s.SetsUp (made.protectBoth r w).2 :=
      .of_note ((events_protectBoth made r w).trans (congrArg events hmade)) rfl
    rcases hp : made.protectBoth r w with ⟨e | _, u⟩ <;> rw [hp] at hnoted
    · exact hnoted.trans (setsUp_closeAll _ _)
    · exact hnoted

theorem setsUp_resolveInput (s : Shell σ α η) (stage : Stage) (incoming : Option Nat) :
    s.SetsUp (s.resolveInput stage incoming).2 := by
  unfold resolveInput
  cases stage.input with
  | some path =>
      have hopen := (setsUp_closeAll s incoming.toList).trans (setsUp_openInput _ path)
      rcases ho : (s.closeAll incoming.toList).openInput path with ⟨e | fd, u⟩ <;>
        rw [ho] at hopen <;> simpa only [ho] using hopen
  | none => cases incoming <;> exact .of_events_eq rfl

theorem setsUp_resolveOutput (s : Shell σ α η) (index : Nat) (stage : Stage) :
    s.SetsUp (s.resolveOutput index stage).2 := by
  unfold resolveOutput
  cases stage.output with
  | inherit => exact .of_events_eq rfl
  | file mode path =>
      have hopen := setsUp_openOutput s mode path
      rcases ho : s.openOutput mode path with ⟨e | fd, u⟩ <;>
        rw [ho] at hopen <;> simpa only [ho] using hopen
  | pipe =>
      have hpipe := setsUp_makePipe s index
      rcases hp : s.makePipe index with ⟨e | ⟨r, w⟩, u⟩ <;>
        rw [hp] at hpipe <;> simpa only [hp] using hpipe

theorem setsUp_of_resolveInput (s : Shell σ α η) (index : Nat) (stage : Stage)
    (incoming : Option Nat) :
    (s.resolveInput stage incoming).2.SetsUp (s.resolve index stage incoming).2 := by
  unfold resolve
  rcases hi : s.resolveInput stage incoming with ⟨f | stdin, u⟩
  · exact .of_events_eq rfl
  · have hout := setsUp_resolveOutput u index stage
    dsimp only
    rcases ho : u.resolveOutput index stage with ⟨f | ⟨stdout, downstream⟩, v⟩ <;>
      rw [ho] at hout
    · exact hout.trans (setsUp_closeAll _ _)
    · exact hout

theorem setsUp_resolve (s : Shell σ α η) (index : Nat) (stage : Stage) (incoming : Option Nat) :
    s.SetsUp (s.resolve index stage incoming).2 :=
  (setsUp_resolveInput s stage incoming).trans (setsUp_of_resolveInput s index stage incoming)

/-! ## Starting a stage -/

def attempt (s : Shell σ α η) (index : Nat) (stage : Stage) (r : Resolved)
    (outcome : Except Fault η) : Event α η :=
  .spawn ⟨index, stage, r, s.descriptors⟩ outcome

theorem events_spawn (s : Shell σ α η) (index : Nat) (stage : Stage) (r : Resolved) :
    (s.spawn index stage r).2.events = s.events ++
      s.attempt index stage r (s.spawn index stage r).1 :: r.wiring.descriptors.map .close := by
  simp [spawn, attempt]

theorem launch_eq_ok {index : Nat} {stage : Stage} {incoming downstream : Option Nat} {process : η}
    (h : s.launch index stage incoming = (.ok (process, downstream), t)) :
    ∃ r u, s.resolve index stage incoming = (.ok r, u) ∧
      u.spawn index stage r = (.ok process, t) ∧ r.downstream = downstream := by
  unfold launch at h
  rcases hr : s.resolve index stage incoming with ⟨f | r, u⟩ <;> rw [hr] at h
  · simp at h
  · dsimp only at h
    rcases hs : u.spawn index stage r with ⟨f | process', v⟩ <;> rw [hs] at h
    · simp at h
    · simp only [Prod.mk.injEq, Except.ok.injEq] at h
      obtain ⟨⟨rfl, hd⟩, rfl⟩ := h
      exact ⟨r, u, rfl, hs, hd⟩

/-- A stage that is not started could not be connected, or its process was refused and the read end
is closed. -/
theorem launch_eq_error {index : Nat} {stage : Stage} {incoming : Option Nat} {f : Fault}
    (h : s.launch index stage incoming = (.error f, t)) :
    s.resolve index stage incoming = (.error f, t) ∨
      ∃ r u v, s.resolve index stage incoming = (.ok r, u) ∧
        u.spawn index stage r = (.error f, v) ∧ t = v.closeAll r.downstream.toList := by
  unfold launch at h
  rcases hr : s.resolve index stage incoming with ⟨f' | r, u⟩ <;> rw [hr] at h
  · exact Or.inl (by simpa using h)
  · dsimp only at h
    rcases hs : u.spawn index stage r with ⟨f' | process, v⟩ <;> rw [hs] at h
    · simp only [Prod.mk.injEq, Except.error.injEq] at h
      obtain ⟨rfl, rfl⟩ := h
      exact Or.inr ⟨r, u, v, rfl, hs, rfl⟩
    · simp at h

/-! ## Starting stages -/

/-- The stages before some position could be started: their processes, in order, the read end that
is carried over to the next stage, and the shell as it is then. -/
inductive Started (s : Shell σ α η) (stages : List Stage) :
    List η → Option Nat → Shell σ α η → Prop where
  | nil : Started s stages [] none s
  | concat {processes : List η} {incoming downstream : Option Nat} {t t' : Shell σ α η}
      {stage : Stage} {process : η} (before : Started s stages processes incoming t)
      (next : stages[processes.length]? = some stage)
      (launch : t.launch processes.length stage incoming = (.ok (process, downstream), t')) :
      Started s stages (processes ++ [process]) downstream t'

/-- The end of the starting: every stage could be started, or the one after those that could be
started could not. Besides the processes there are the read end that is left over, the fault, and
the shell as it is then. -/
inductive LaunchEnds (s : Shell σ α η) (stages : List Stage) :
    List η → Option Nat → Option Fault → Shell σ α η → Prop where
  | all {processes : List η} {incoming : Option Nat} {t : Shell σ α η}
      (started : Started s stages processes incoming t)
      (length : processes.length = stages.length) :
      LaunchEnds s stages processes incoming none t
  | fault {processes : List η} {incoming : Option Nat} {t t' : Shell σ α η} {stage : Stage}
      {f : Fault} (started : Started s stages processes incoming t)
      (next : stages[processes.length]? = some stage)
      (launch : t.launch processes.length stage incoming = (.error f, t')) :
      LaunchEnds s stages processes none (some f)
        (t'.warn (.aborting processes.length stage.program f))

theorem Started.length_le {stages : List Stage} {processes : List η} {incoming : Option Nat}
    (h : Started s stages processes incoming t) : processes.length ≤ stages.length := by
  cases h with
  | nil => exact Nat.zero_le _
  | concat _ next _ =>
      obtain ⟨hlt, -⟩ := List.getElem?_eq_some_iff.mp next
      simpa using Nat.succ_le_of_lt hlt

theorem LaunchEnds.length_le {stages : List Stage} {processes : List η} {leftover : Option Nat}
    {fault : Option Fault} (h : LaunchEnds s stages processes leftover fault t) :
    processes.length ≤ stages.length := by
  cases h with
  | all started _ => exact started.length_le
  | fault started _ _ => exact started.length_le

/-- Without a fault all stages were started, and only then. -/
theorem LaunchEnds.fault_eq_none_iff {stages : List Stage} {processes : List η}
    {leftover : Option Nat} {fault : Option Fault}
    (h : LaunchEnds s stages processes leftover fault t) :
    fault = none ↔ processes.length = stages.length := by
  cases h with
  | all _ length => simp [length]
  | fault _ next _ =>
      have hlt := (List.getElem?_eq_some_iff.mp next).1
      simp [Nat.ne_of_lt hlt]

theorem Started.launchEnds {stages : List Stage} {processes : List η} {incoming : Option Nat}
    (h : Started s stages processes incoming t) {rest : List Stage}
    (hrest : stages.drop processes.length = rest) :
    ∃ (more : List η) (leftover : Option Nat) (fault : Option Fault) (u : Shell σ α η),
      LaunchEnds s stages (processes ++ more) leftover fault u ∧
      t.launchAll processes.length incoming rest =
        (⟨numbered processes.length more, leftover, fault⟩, u) := by
  -- the position of the next stage is the number of processes that were created
  induction rest generalizing processes incoming t with
  | nil =>
      have hlength : processes.length = stages.length :=
        Nat.le_antisymm h.length_le (List.drop_eq_nil_iff.mp hrest)
      exact ⟨[], incoming, none, t, by simpa using LaunchEnds.all h hlength, rfl⟩
  | cons stage rest ih =>
      have hnext : stages[processes.length]? = some stage := by
        rw [← List.head?_drop, hrest]
        rfl
      have hdrop : stages.drop (processes.length + 1) = rest := by
        rw [← List.tail_drop, hrest]
        rfl
      rcases hl : t.launch processes.length stage incoming with ⟨f | ⟨process, downstream⟩, t'⟩
      · refine ⟨[], none, some f, _, by simpa using LaunchEnds.fault h hnext hl, ?_⟩
        simp only [launchAll, hl, numbered_nil]
      · obtain ⟨more, leftover, fault, u, hends, hrun⟩ :=
          ih (h.concat hnext hl) (by simpa using hdrop)
        refine ⟨process :: more, leftover, fault, u, by simpa using hends, ?_⟩
        rw [List.length_append, List.length_singleton] at hrun
        simp only [launchAll, hl, hrun, numbered_cons]

/-- The starting ends in one of the two ways. -/
theorem launchAll_launchEnds (s : Shell σ α η) (stages : List Stage) :
    ∃ (processes : List η) (leftover : Option Nat) (fault : Option Fault) (t : Shell σ α η),
      LaunchEnds s stages processes leftover fault t ∧
      s.launchAll 0 none stages = (⟨numbered 0 processes, leftover, fault⟩, t) := by
  simpa using (Started.nil : Started s stages [] none s).launchEnds rfl

/-! ## Waiting -/

theorem events_wait (s : Shell σ α η) (index : Nat) (process : η) :
    (s.wait index process).2.events =
      s.events ++ [.wait index process (s.wait index process).1] := rfl

/-- What waits and warnings keep, waiting for processes keeps. -/
theorem reapAll_invariant {P : Shell σ α η → Prop}
    (hwait : ∀ s index process, P s → P (s.wait index process).2)
    (hwarn : ∀ s w, P s → P (s.warn w)) (h : P s) (last : Nat) (processes : List (Nat × η)) :
    P (s.reapAll last processes).2 := by
  induction processes generalizing s with
  | nil => exact h
  | cons q rest ih =>
      obtain ⟨index, process⟩ := q
      have hone := hwait s index process h
      unfold reapAll
      rcases hw : s.wait index process with ⟨f | exit, t⟩ <;> rw [hw] at hone <;> dsimp only
      · split
        · exact ih hone
        · exact ih (hwarn t _ hone)
      · split <;> exact ih hone

theorem reapAll_cons (s : Shell σ α η) (last index : Nat) (process : η)
    (rest : List (Nat × η)) :
    ∃ (outcome : Except Fault Exit) (t : Shell σ α η),
      t.events = s.events ++ reapEvents last index process outcome ∧
      (s.reapAll last ((index, process) :: rest)).2 = (t.reapAll last rest).2 ∧
      (s.reapAll last ((index, process) :: rest)).1 =
        if index = last then (t.reapAll last rest).1.or (some outcome)
        else (t.reapAll last rest).1 := by
  have hevents := events_wait s index process
  rcases hw : s.wait index process with ⟨outcome, t⟩
  rw [hw] at hevents
  dsimp only at hevents
  by_cases hlast : index = last
  · refine ⟨outcome, t, ?_, ?_, ?_⟩
    · cases outcome <;> simpa [reapEvents, hlast] using hevents
    · simp only [reapAll, hw, if_pos hlast]
    · simp only [reapAll, hw, if_pos hlast]
  · cases outcome with
    | error f =>
        refine ⟨.error f, t.warn (.notReaped index f), ?_, ?_, ?_⟩
        · simp only [events_warn, hevents, reapEvents, if_neg hlast, List.append_assoc]
          rfl
        · simp only [reapAll, hw, if_neg hlast]
        · simp only [reapAll, hw, if_neg hlast]
    | ok exit =>
        refine ⟨.ok exit, t, hevents, ?_, ?_⟩
        · simp only [reapAll, hw, if_neg hlast]
        · simp only [reapAll, hw, if_neg hlast]

/-- Every process is waited for once, in order, whatever comes of the waits before. What is
answered is the outcome of the wait at the position `last`. -/
theorem reapAll_numbered (s : Shell σ α η) (last first : Nat) (processes : List η) :
    ∃ outcomes : List (Except Fault Exit), outcomes.length = processes.length ∧
      (s.reapAll last (numbered first processes)).2.events =
        s.events ++ reapTrace last first processes outcomes ∧
      (s.reapAll last (numbered first processes)).1 =
        if first ≤ last then outcomes[last - first]? else none := by
  induction processes generalizing s first with
  | nil => exact ⟨[], rfl, by simp [reapAll, reapTrace], by simp [reapAll]⟩
  | cons process processes ih =>
      obtain ⟨outcome, t, ht, hstate, hanswer⟩ :=
        reapAll_cons s last first process (numbered (first + 1) processes)
      obtain ⟨outcomes, hlength, hevents, hfinal⟩ := ih t (first + 1)
      refine ⟨outcome :: outcomes, by simp [hlength], ?_, ?_⟩
      · rw [numbered_cons, hstate, hevents, ht]
        simp [reapTrace]
      · rw [numbered_cons, hanswer, hfinal]
        rcases Nat.lt_trichotomy first last with hlt | heq | hgt
        · have hsub : last - first = last - (first + 1) + 1 := by omega
          simp [hsub, Nat.ne_of_lt hlt, Nat.le_of_lt hlt, Nat.succ_le_of_lt hlt]
        · subst heq
          rw [if_pos rfl, if_neg (Nat.not_succ_le_self first), if_pos (Nat.le_refl first)]
          simp
        · simp [Nat.ne_of_gt hgt, Nat.not_le_of_gt hgt, Nat.not_le_of_gt (Nat.lt_succ_of_lt hgt)]

/-! ## The whole run -/

/-- The result of a run, from the fault that ended the starting and the outcome of the wait for
the last stage. -/
def verdict : Option Fault → Option (Except Fault Exit) → Except Fault Status
  | some f, _ => .error f
  | none, some outcome => outcome.map Exit.status
  | none, none => .ok failureStatus

/-- After the starting all processes are waited for, whatever came of it. -/
theorem run_of_launchAll {p : Pipeline} {processes : List η} {leftover : Option Nat}
    {fault : Option Fault}
    (hl : s.launchAll 0 none p.stages = (⟨numbered 0 processes, leftover, fault⟩, t)) :
    ∃ outcomes : List (Except Fault Exit), outcomes.length = processes.length ∧
      (s.run p).2 = ((t.closeAll leftover.toList).reapAll p.lastIndex (numbered 0 processes)).2 ∧
      (s.run p).2.events = t.events ++ leftover.toList.map .close ++
        reapTrace p.lastIndex 0 processes outcomes ∧
      (s.run p).1 = verdict fault outcomes[p.lastIndex]? := by
  obtain ⟨outcomes, hlength, hevents, hfinal⟩ :=
    reapAll_numbered (t.closeAll leftover.toList) p.lastIndex 0 processes
  refine ⟨outcomes, hlength, ?_, ?_, ?_⟩
  · simp only [run, hl]
    split <;> rfl
  · simp only [run, hl]
    split <;> simpa using hevents
  · simp only [Nat.zero_le, if_true, Nat.sub_zero] at hfinal
    simp only [run, hl, hfinal]
    rcases fault with _ | f <;> rcases outcomes[p.lastIndex]? with _ | _ | exit <;> rfl

/-- A run starts what it can, closes the pipe that is left over, and waits for every process that
was started. -/
theorem run_phases (s : Shell σ α η) (p : Pipeline) :
    ∃ (processes : List η) (leftover : Option Nat) (fault : Option Fault) (t : Shell σ α η)
      (outcomes : List (Except Fault Exit)),
      LaunchEnds s p.stages processes leftover fault t ∧
      outcomes.length = processes.length ∧
      (s.run p).2 = ((t.closeAll leftover.toList).reapAll p.lastIndex (numbered 0 processes)).2 ∧
      (s.run p).2.events = t.events ++ leftover.toList.map .close ++
        reapTrace p.lastIndex 0 processes outcomes ∧
      (s.run p).1 = verdict fault outcomes[p.lastIndex]? := by
  obtain ⟨processes, leftover, fault, t, hends, hl⟩ := launchAll_launchEnds s p.stages
  obtain ⟨outcomes, hrun⟩ := run_of_launchAll hl
  exact ⟨processes, leftover, fault, t, outcomes, hends, hrun⟩

/-- What a run of a pipeline adds to the events of the shell. -/
def trace (s : Shell σ α η) (p : Pipeline) : List (Event α η) :=
  (s.run p).2.events.drop s.events.length

theorem trace_eq_of_events {p : Pipeline} {notes : List (Event α η)}
    (h : (s.run p).2.events = s.events ++ notes) : s.trace p = notes := by
  rw [trace, h, List.drop_left]

end Shell

end ShellPipeline
