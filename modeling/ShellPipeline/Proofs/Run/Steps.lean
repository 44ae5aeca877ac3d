import ShellPipeline.Proofs.Run.Ownership

/-!
# Runs step by step

A run is a sequence of single operations of the shell, one for each event that it notes. `Operates`
says what such an operation asks of the system and what the shell holds after the answer. What one
operation keeps, whichever it is, a whole run keeps, and where an event is noted the system has
given the answer that it tells of. Every attempt to create a process is made when the stages before
have been started and the stage has been connected.
-/

namespace ShellPipeline

/-! ## Operations -/

section Operations

variable {σ α η : Type} [Host σ α η]

/-- The system is asked to keep both ends of a pipe from programs, the second one only if it did so
with the first. -/
inductive KeepsEnds (r w : α) (host : σ) : Except Errno Unit → σ → Prop
  | refused {e : Errno} {host' : σ} (first : Host.protect r host = (.error e, host')) :
      KeepsEnds r w host (.error e) host'
  | asked {outcome : Except Errno Unit} {between host' : σ}
      (first : Host.protect r host = (.ok (), between))
      (second : Host.protect w between = (outcome, host')) : KeepsEnds r w host outcome host'

/-- What an event tells of: what was asked of the system in one state, and what the shell holds when
the system has answered. -/
inductive Operates (d : Descriptors α) (host : σ) : Event α η → Descriptors α → σ → Prop
  | inputRefused {path : String} {f : PathFault} {host' : σ}
      (answer : Host.openInput path host = (.error f, host')) :
      Operates d host (.openInput path (.error f)) d host'
  | inputOpened {path : String} {a : α} {host' : σ}
      (answer : Host.openInput path host = (.ok a, host')) :
      Operates d host (.openInput path (.ok (d.add a).1)) (d.add a).2 host'
  | outputRefused {mode : WriteMode} {path : String} {f : PathFault} {host' : σ}
      (answer : Host.openOutput mode path host = (.error f, host')) :
      Operates d host (.openOutput mode path (.error f)) d host'
  | outputOpened {mode : WriteMode} {path : String} {a : α} {host' : σ}
      (answer : Host.openOutput mode path host = (.ok a, host')) :
      Operates d host (.openOutput mode path (.ok (d.add a).1)) (d.add a).2 host'
  | pipeRefused {stage : Nat} {e : Errno} {host' : σ}
      (answer : Host.makePipe host = (.error e, host')) :
      Operates d host (.makePipe stage (.error e)) d host'
  /-- The ends of a pipe are kept from programs as soon as it is made. -/
  | pipeMade {stage : Nat} {r w : α} {kept : Except Errno Unit} {made host' : σ}
      (answer : Host.makePipe host = (.ok (r, w), made)) (keeps : KeepsEnds r w made kept host') :
      Operates d host (.makePipe stage (.ok ((d.add r).1, ((d.add r).2.add w).1)))
        ((d.add r).2.add w).2 host'
  | closed {fd : Nat} {a : α} (held : d.get? fd = some a) :
      Operates d host (.close fd) (d.close fd) (Host.release a host)
  | notHeld {fd : Nat} (free : d.get? fd = none) : Operates d host (.close fd) (d.close fd) host
  | attempted {l : Launch α} {outcome : Except Fault η} {host' : σ} (copied : l.descriptors = d)
      (answer : Host.spawn l host = (outcome, host')) :
      Operates d host (.spawn l outcome) d host'
  | awaited {index : Nat} {process : η} {outcome : Except Fault Exit} {host' : σ}
      (answer : Host.wait index process host = (outcome, host')) :
      Operates d host (.wait index process outcome) d host'
  | warned {w : Warning} : Operates d host (.warn w) d host

variable {d d' : Descriptors α} {host host' : σ}

theorem Operates.openInput_error {path : String} {f : PathFault}
    (h : Operates d host (.openInput path (.error f)) d' host') :
    Host.openInput path host = (.error f, host') := by
  cases h with
  | inputRefused answer => exact answer

theorem Operates.openOutput_error {mode : WriteMode} {path : String} {f : PathFault}
    (h : Operates d host (.openOutput mode path (.error f)) d' host') :
    Host.openOutput mode path host = (.error f, host') := by
  cases h with
  | outputRefused answer => exact answer

theorem Operates.openOutput_eq {mode : WriteMode} {path : String} {outcome : Except PathFault Nat}
    (h : Operates d host (.openOutput mode path outcome) d' host') :
    ∃ answer, Host.openOutput mode path host = (answer, host') ∧
      outcome = answer.map fun a => (d.add a).1 := by
  cases h with
  | outputRefused answer => exact ⟨_, answer, rfl⟩
  | outputOpened answer => exact ⟨_, answer, rfl⟩

theorem Operates.spawn_eq {l : Launch α} {outcome : Except Fault η}
    (h : Operates d host (.spawn l outcome) d' host') :
    l.descriptors = d ∧ Host.spawn l host = (outcome, host') := by
  cases h with
  | attempted copied answer => exact ⟨copied, answer⟩

theorem Operates.wait_eq {index : Nat} {process : η} {outcome : Except Fault Exit}
    (h : Operates d host (.wait index process outcome) d' host') :
    Host.wait index process host = (outcome, host') := by
  cases h with
  | awaited answer => exact answer

theorem Operates.ends_ne {i r w : Nat} (h : Operates d host (.makePipe i (.ok (r, w))) d' host') :
    r ≠ w := by
  cases h with
  | pipeMade => exact (Descriptors.fst_add_add_ne _ _ _).symm

end Operations

namespace Shell

variable {σ α η : Type} [Host σ α η] {s t u : Shell σ α η} {events more : List (Event α η)}
  {e : Event α η}

/-- A single operation of the shell and the event that it notes. -/
structure Acts (s : Shell σ α η) (e : Event α η) (t : Shell σ α η) : Prop where
  operates : Operates s.descriptors s.host e t.descriptors t.host
  events_eq : t.events = s.events ++ [e]

/-- The shell goes from one state to another by operations that note these events. -/
inductive Follows (s : Shell σ α η) : List (Event α η) → Shell σ α η → Prop
  | nil : Follows s [] s
  | concat {events : List (Event α η)} {e : Event α η} {t u : Shell σ α η}
      (before : Follows s events t) (act : Acts t e u) : Follows s (events ++ [e]) u

/-! ## What the shell does -/

theorem acts_openInput (s : Shell σ α η) (path : String) :
    Acts s (.openInput path (s.openInput path).1) (s.openInput path).2 := by
  unfold openInput
  rcases ho : Host.openInput path s.host with ⟨f | a, host⟩
  · exact ⟨.inputRefused ho, rfl⟩
  · exact ⟨.inputOpened ho, rfl⟩

theorem acts_openOutput (s : Shell σ α η) (mode : WriteMode) (path : String) :
    Acts s (.openOutput mode path (s.openOutput mode path).1) (s.openOutput mode path).2 := by
  unfold openOutput
  rcases ho : Host.openOutput mode path s.host with ⟨f | a, host⟩
  · exact ⟨.outputRefused ho, rfl⟩
  · exact ⟨.outputOpened ho, rfl⟩

theorem acts_close (s : Shell σ α η) (fd : Nat) : Acts s (.close fd) (s.close fd) := by
  unfold close
  cases hfd : s.descriptors.get? fd with
  | none => exact ⟨.notHeld hfd, rfl⟩
  | some a => exact ⟨.closed hfd, rfl⟩

/-- To wait is to ask the system, and its answer is noted. -/
theorem acts_wait (s : Shell σ α η) (index : Nat) (process : η) :
    Acts s (.wait index process (s.wait index process).1) (s.wait index process).2 :=
  ⟨.awaited rfl, rfl⟩

theorem acts_warn (s : Shell σ α η) (w : Warning) : Acts s (.warn w) (s.warn w) :=
  ⟨.warned, rfl⟩

theorem keepsEnds_protectBoth (s : Shell σ α η) (r w : α) :
    KeepsEnds r w s.host (s.protectBoth r w).1 (s.protectBoth r w).2.host := by
  unfold protectBoth
  rcases hr : Host.protect r s.host with ⟨e | _, host⟩
  · exact .refused hr
  · exact .asked hr rfl

/-- A pipe is made and its ends are kept from programs. If they cannot be, both are closed again. -/
theorem makePipe_cases (s : Shell σ α η) (stage : Nat) :
    (∃ e host, Host.makePipe s.host = (.error e, host) ∧ (s.makePipe stage).1 = .error e ∧
        Acts s (.makePipe stage (.error e)) (s.makePipe stage).2) ∨
      ∃ r w made kept ends t, Host.makePipe s.host = (.ok (r, w), made) ∧
        KeepsEnds r w made kept t.host ∧ Acts s (.makePipe stage (.ok ends)) t ∧
        s.makePipe stage = match kept with
          | .error e => (.error e, t.closeAll [ends.1, ends.2])
          | .ok () => (.ok ends, t) := by
  unfold makePipe
  rcases hm : Host.makePipe s.host with ⟨e | ⟨r, w⟩, made⟩
  · exact Or.inl ⟨e, made, rfl, rfl, .pipeRefused hm, rfl⟩
  · dsimp only
    set held : Shell σ α η := note _ _ with hheld
    have hkeeps := keepsEnds_protectBoth held r w
    have hevents := events_protectBoth held r w
    have hdescriptors := Accounts.descriptors_protectBoth held r w
    rcases hp : held.protectBoth r w with ⟨kept, t⟩
    rw [hp] at hkeeps hevents hdescriptors
    refine Or.inr ⟨r, w, made, kept, ((s.descriptors.add r).1, ((s.descriptors.add r).2.add w).1),
      t, rfl, hkeeps, ⟨?_, hevents⟩, by cases kept <;> rfl⟩
    rw [show t.descriptors = ((s.descriptors.add r).2.add w).2 from hdescriptors]
    exact .pipeMade hm hkeeps

/-- The process is asked for with the descriptors that the shell holds, and then the shell closes
those of the stage. -/
theorem spawn_cases (s : Shell σ α η) (index : Nat) (stage : Stage) (r : Resolved) :
    ∃ t, Acts s (s.attempt index stage r (s.spawn index stage r).1) t ∧
      (s.spawn index stage r).2 = t.closeAll r.wiring.descriptors := by
  rcases hs : Host.spawn ⟨index, stage, r, s.descriptors⟩ s.host with ⟨outcome, host⟩
  refine ⟨({ s with host } : Shell σ α η).note (s.attempt index stage r outcome), ?_, ?_⟩
  · simp only [spawn, hs]
    exact ⟨.attempted rfl hs, rfl⟩
  · simp only [spawn, hs]
    rfl

/-! ## Runs of operations -/

theorem Follows.events_eq (h : Follows s events t) : t.events = s.events ++ events := by
  induction h with
  | nil => exact (List.append_nil _).symm
  | concat _ act ih => rw [act.events_eq, ih, List.append_assoc]

theorem Follows.append (h : Follows s events t) (h' : Follows t more u) :
    Follows s (events ++ more) u := by
  induction h' with
  | nil => simpa using h
  | concat _ act ih => simpa using ih.concat act

theorem Acts.follows (h : Acts s e t) : Follows s [e] t :=
  .concat .nil h

theorem Follows.exists_last (h : Follows s (events ++ [e]) t) :
    ∃ u, Follows s events u ∧ Acts u e t := by
  generalize hall : events ++ [e] = all at h
  cases h with
  | nil => simp at hall
  | concat before act =>
      obtain ⟨rfl, hlast⟩ := List.append_inj' hall rfl
      cases hlast
      exact ⟨_, before, act⟩

/-- Where an event is noted the operation that it tells of takes place. -/
theorem Follows.exists_acts {before after : List (Event α η)}
    (h : Follows s (before ++ e :: after) t) :
    ∃ u v, Follows s before u ∧ Acts u e v ∧ Follows v after t := by
  induction after using List.reverseRecOn generalizing t with
  | nil =>
      obtain ⟨u, hbefore, act⟩ := h.exists_last
      exact ⟨u, t, hbefore, act, .nil⟩
  | append_singleton after e' ih =>
      rw [← List.cons_append, ← List.append_assoc] at h
      obtain ⟨w, hw, last⟩ := h.exists_last
      obtain ⟨u, v, hbefore, act, hafter⟩ := ih hw
      exact ⟨u, v, hbefore, act, hafter.concat last⟩

/-- What every operation keeps that connects stages is kept. -/
theorem Follows.invariant_of_setup {P : Shell σ α η → Prop} (h : Follows s events t)
    (hsetup : ∀ e ∈ events, e.isSetup = true)
    (hacts : ∀ s e t, Acts s e t → e.isSetup = true → P s → P t) (hs : P s) : P t := by
  induction h with
  | nil => exact hs
  | concat _ act ih =>
      have hbefore := ih fun e he => hsetup e (List.mem_append_left _ he)
      exact hacts _ _ _ act (hsetup _ (by simp)) hbefore

/-- The ends of a pipe have different descriptors. -/
theorem Follows.ends_ne {i r w : Nat} (h : Follows s events t)
    (he : .makePipe i (.ok (r, w)) ∈ events) : r ≠ w := by
  obtain ⟨before, after, rfl⟩ := List.append_of_mem he
  obtain ⟨u, v, -, act, -⟩ := h.exists_acts
  exact act.operates.ends_ne

/-- Where an event is noted in a run from one state to another, the system is asked for something
and gives an answer. The run has come there by the events before, and goes on from there by those
after. -/
def AskedAt {β : Type} (s t : Shell σ α η) (before : List (Event α η)) (e : Event α η)
    (after : List (Event α η)) (request : σ → β × σ) (answer : β) : Prop :=
  ∃ u v, Follows s before u ∧ Acts u e v ∧ Follows v after t ∧ request u.host = (answer, v.host)

/-- Every attempt to create a process that is noted was a request, and the system has answered
so. -/
theorem Follows.asked_spawn {before after : List (Event α η)} {l : Launch α}
    {outcome : Except Fault η} (h : Follows s (before ++ .spawn l outcome :: after) t) :
    s.AskedAt t before (.spawn l outcome) after (Host.spawn l) outcome := by
  obtain ⟨u, v, hbefore, act, hafter⟩ := h.exists_acts
  exact ⟨u, v, hbefore, act, hafter, act.operates.spawn_eq.2⟩

/-- Every wait that is noted was a request, and the system has answered so. -/
theorem Follows.asked_wait {before after : List (Event α η)} {index : Nat} {process : η}
    {outcome : Except Fault Exit}
    (h : Follows s (before ++ .wait index process outcome :: after) t) :
    s.AskedAt t before (.wait index process outcome) after (Host.wait index process) outcome := by
  obtain ⟨u, v, hbefore, act, hafter⟩ := h.exists_acts
  exact ⟨u, v, hbefore, act, hafter, act.operates.wait_eq⟩

def Goes (s t : Shell σ α η) : Prop :=
  ∃ events, Follows s events t

theorem Goes.refl (s : Shell σ α η) : s.Goes s :=
  ⟨[], .nil⟩

theorem Goes.trans (h : s.Goes t) (h' : t.Goes u) : s.Goes u := by
  obtain ⟨events, h⟩ := h
  obtain ⟨more, h'⟩ := h'
  exact ⟨events ++ more, h.append h'⟩

theorem Acts.goes (h : Acts s e t) : s.Goes t :=
  ⟨[e], h.follows⟩

theorem follows_closeAll (s : Shell σ α η) (fds : List Nat) :
    s.Follows (fds.map .close) (s.closeAll fds) := by
  induction fds generalizing s with
  | nil => exact .nil
  | cons fd fds ih => exact (acts_close s fd).follows.append (ih (s.close fd))

theorem goes_closeAll (s : Shell σ α η) (fds : List Nat) : s.Goes (s.closeAll fds) :=
  ⟨_, follows_closeAll s fds⟩

theorem goes_makePipe (s : Shell σ α η) (stage : Nat) : s.Goes (s.makePipe stage).2 := by
  rcases makePipe_cases s stage with ⟨e, host, -, -, act⟩ |
    ⟨r, w, made, kept, ends, t, -, -, act, h⟩
  · exact act.goes
  · rw [h]
    rcases kept with e | _
    · exact act.goes.trans (goes_closeAll _ _)
    · exact act.goes

theorem goes_resolveInput (s : Shell σ α η) (stage : Stage) (incoming : Option Nat) :
    s.Goes (s.resolveInput stage incoming).2 := by
  unfold resolveInput
  cases stage.input with
  | some path =>
      have hopen := (goes_closeAll s incoming.toList).trans (acts_openInput _ path).goes
      rcases ho : (s.closeAll incoming.toList).openInput path with ⟨e | fd, u⟩ <;>
        rw [ho] at hopen <;> simpa only [ho] using hopen
  | none => cases incoming <;> exact .refl s

theorem goes_resolveOutput (s : Shell σ α η) (index : Nat) (stage : Stage) :
    s.Goes (s.resolveOutput index stage).2 := by
  unfold resolveOutput
  cases stage.output with
  | inherit => exact .refl s
  | file mode path =>
      have hopen := (acts_openOutput s mode path).goes
      rcases ho : s.openOutput mode path with ⟨e | fd, u⟩ <;>
        rw [ho] at hopen <;> simpa only [ho] using hopen
  | pipe =>
      have hpipe := goes_makePipe s index
      rcases hp : s.makePipe index with ⟨e | ⟨r, w⟩, u⟩ <;>
        rw [hp] at hpipe <;> simpa only [hp] using hpipe

theorem goes_resolve (s : Shell σ α η) (index : Nat) (stage : Stage) (incoming : Option Nat) :
    s.Goes (s.resolve index stage incoming).2 := by
  have hin := goes_resolveInput s stage incoming
  unfold resolve
  rcases hi : s.resolveInput stage incoming with ⟨f | stdin, u⟩ <;> rw [hi] at hin
  · exact hin
  · have hout := hin.trans (goes_resolveOutput u index stage)
    dsimp only at hout ⊢
    rcases ho : u.resolveOutput index stage with ⟨f | ⟨stdout, downstream⟩, v⟩ <;>
      rw [ho] at hout
    · exact hout.trans (goes_closeAll _ _)
    · exact hout

/-- What every operation keeps that connects stages is kept when a stage is connected. -/
theorem resolve_invariant {P : Shell σ α η → Prop}
    (hacts : ∀ s e t, Acts s e t → e.isSetup = true → P s → P t) (hs : P s) (index : Nat)
    (stage : Stage) (incoming : Option Nat) : P (s.resolve index stage incoming).2 := by
  obtain ⟨events, hfollows⟩ := goes_resolve s index stage incoming
  obtain ⟨notes, hnotes, hsetup⟩ := setsUp_resolve s index stage incoming
  obtain rfl : notes = events := List.append_cancel_left (hnotes.symm.trans hfollows.events_eq)
  exact hfollows.invariant_of_setup hsetup hacts hs

theorem goes_spawn (s : Shell σ α η) (index : Nat) (stage : Stage) (r : Resolved) :
    s.Goes (s.spawn index stage r).2 := by
  obtain ⟨t, act, h⟩ := spawn_cases s index stage r
  rw [h]
  exact act.goes.trans (goes_closeAll _ _)

theorem goes_launch (s : Shell σ α η) (index : Nat) (stage : Stage) (incoming : Option Nat) :
    s.Goes (s.launch index stage incoming).2 := by
  have hresolve := goes_resolve s index stage incoming
  unfold launch
  rcases hr : s.resolve index stage incoming with ⟨f | r, u⟩ <;> rw [hr] at hresolve
  · exact hresolve
  · have hspawn := hresolve.trans (goes_spawn u index stage r)
    dsimp only at hspawn ⊢
    rcases hs : u.spawn index stage r with ⟨f | process, v⟩ <;> rw [hs] at hspawn
    · exact hspawn.trans (goes_closeAll _ _)
    · exact hspawn

theorem goes_launchAll (s : Shell σ α η) (index : Nat) (incoming : Option Nat)
    (stages : List Stage) : s.Goes (s.launchAll index incoming stages).2 := by
  induction stages generalizing s index incoming with
  | nil => exact .refl s
  | cons stage rest ih =>
      have hlaunch := goes_launch s index stage incoming
      unfold launchAll
      rcases hl : s.launch index stage incoming with ⟨f | ⟨process, downstream⟩, t⟩ <;>
        rw [hl] at hlaunch
      · exact hlaunch.trans (acts_warn t _).goes
      · exact hlaunch.trans (ih t _ _)

theorem goes_reapAll (s : Shell σ α η) (last : Nat) (processes : List (Nat × η)) :
    s.Goes (s.reapAll last processes).2 :=
  reapAll_invariant (fun _ index process h => h.trans (acts_wait _ index process).goes)
    (fun _ w h => h.trans (acts_warn _ w).goes) (.refl s) last processes

/-- A run goes from one state to the other by the operations that its trace notes. -/
theorem follows_trace (s : Shell σ α η) (p : Pipeline) :
    s.Follows (s.trace p) (s.run p).2 := by
  have hrun : s.Goes (s.run p).2 := by
    have hlaunch := goes_launchAll s 0 none p.stages
    rcases hl : s.launchAll 0 none p.stages with ⟨l, t⟩
    rw [hl] at hlaunch
    have hreap := hlaunch.trans ((goes_closeAll t l.leftover.toList).trans
      (goes_reapAll _ p.lastIndex l.processes))
    simp only [run, hl]
    split <;> exact hreap
  obtain ⟨events, hfollows⟩ := hrun
  rwa [trace_eq_of_events hfollows.events_eq]

/-! ## Attempts to create processes -/

/-- A process is asked for in a state in which all stages before its own were started and its stage
was connected. -/
def Attempted (s : Shell σ α η) (stages : List Stage) (before : List (Event α η)) :
    Event α η → Prop
  | .spawn launch _ => ∃ (processes : List η) (incoming : Option Nat) (t u : Shell σ α η),
      Started s stages processes incoming t ∧ launch.index = processes.length ∧
      stages[launch.index]? = some launch.stage ∧
      t.resolve launch.index launch.stage incoming = (.ok launch.resolved, u) ∧
      launch.descriptors = u.descriptors ∧ u.events = s.events ++ before
  | _ => True

section Attempts

variable {stages : List Stage} {processes : List η} {incoming : Option Nat}
  {notes : List (Event α η)}

theorem along_attempted_append (h : Along (Attempted s stages) notes)
    (hmore : ∀ e ∈ more, ∀ launch outcome, e ≠ .spawn launch outcome) :
    Along (Attempted s stages) (notes ++ more) := by
  refine along_append h fun j e he => ?_
  cases e with
  | spawn launch outcome => exact absurd rfl (hmore _ (List.mem_of_getElem? he) launch outcome)
  | _ => trivial

theorem along_attempted_setUp (h : Along (Attempted s stages) notes)
    (hmore : ∀ e ∈ more, e.isSetup = true) : Along (Attempted s stages) (notes ++ more) := by
  refine along_attempted_append h ?_
  rintro e he launch outcome rfl
  cases hmore _ he

theorem Started.attempted_spawn {stage : Stage} {r : Resolved} {outcome : Except Fault η}
    (h : Started s stages processes incoming t) (next : stages[processes.length]? = some stage)
    (ht : t.events = s.events ++ notes) (hnotes : Along (Attempted s stages) notes)
    (hr : t.resolve processes.length stage incoming = (.ok r, u)) {v : Shell σ α η}
    (hs : u.spawn processes.length stage r = (outcome, v)) :
    ∃ notes', v.events = s.events ++ notes' ∧ Along (Attempted s stages) notes' := by
  obtain ⟨setup, hu, hsetup⟩ := setsUp_resolve t processes.length stage incoming
  have hv := events_spawn u processes.length stage r
  simp only [hr, ht, List.append_assoc] at hu
  simp only [hs, hu, List.append_assoc] at hv
  have hattempted := along_concat (e := u.attempt processes.length stage r outcome)
    (along_attempted_setUp hnotes hsetup) ⟨processes, incoming, t, u, h, rfl, next, hr, rfl, hu⟩
  refine ⟨notes ++ setup ++ [u.attempt processes.length stage r outcome] ++
    r.wiring.descriptors.map .close, by simpa using hv, along_attempted_append hattempted ?_⟩
  simp

theorem Started.attempted (h : Started s stages processes incoming t) :
    ∃ notes, t.events = s.events ++ notes ∧ Along (Attempted s stages) notes := by
  induction h with
  | nil => exact ⟨[], by simp, fun j e he => by simp at he⟩
  | concat before next launch ih =>
      obtain ⟨notes, hevents, hnotes⟩ := ih
      obtain ⟨r, u, hr, hs, -⟩ := launch_eq_ok launch
      exact before.attempted_spawn next hevents hnotes hr hs

theorem LaunchEnds.attempted {leftover : Option Nat} {fault : Option Fault}
    (h : LaunchEnds s stages processes leftover fault t) :
    ∃ notes, t.events = s.events ++ notes ∧ Along (Attempted s stages) notes := by
  cases h with
  | all started _ => exact started.attempted
  | @fault incoming u t' stage f started next launch =>
      obtain ⟨notes, hu, hnotes⟩ := started.attempted
      obtain ⟨more, ht', hmore⟩ : ∃ more, t'.events = s.events ++ more ∧
          Along (Attempted s stages) more := by
        rcases launch_eq_error launch with hr | ⟨r, v, w, hr, hs, rfl⟩
        · obtain ⟨setup, ht', hsetup⟩ := setsUp_resolve u processes.length stage incoming
          rw [hr, hu, List.append_assoc] at ht'
          exact ⟨_, ht', along_attempted_setUp hnotes hsetup⟩
        · obtain ⟨more, hw, hmore⟩ := started.attempted_spawn next hu hnotes hr hs
          exact ⟨more ++ r.downstream.toList.map .close, by simp [hw],
            along_attempted_append hmore (by simp)⟩
      exact ⟨_, by rw [events_warn, ht', List.append_assoc],
        along_attempted_append hmore (by simp)⟩

/-- Every attempt of a run comes when all stages before its own have been started. -/
theorem attempted_trace (s : Shell σ α η) (p : Pipeline) :
    Along (Attempted s p.stages) (s.trace p) := by
  obtain ⟨processes, leftover, fault, t, outcomes, hends, -, -, hrun, -⟩ := run_phases s p
  obtain ⟨notes, ht, hnotes⟩ := hends.attempted
  rw [ht, List.append_assoc, List.append_assoc] at hrun
  rw [trace_eq_of_events hrun]
  refine along_attempted_append hnotes ?_
  rintro e he launch outcome rfl
  rcases List.mem_append.mp he with he | he
  · simp at he
  · rcases mem_reapTrace he with ⟨index, process, outcome, h⟩ | ⟨w, h⟩ <;> cases h

end Attempts

end Shell

end ShellPipeline
