import ShellPipeline.Proofs.Run.Connection
import ShellPipeline.Proofs.Run.Steps

/-!
# Requests that are refused

A stage is not started because the system refuses a request that is made for it, and the fault says
which one and why. After that nothing more is opened, made or created.
-/

namespace ShellPipeline

variable {α η : Type}

/-- Whether an event opens a file, makes a pipe, or attempts to create a process. -/
def Event.isAcquisition : Event α η → Bool
  | .openInput .. => true
  | .openOutput .. => true
  | .makePipe .. => true
  | .spawn .. => true
  | _ => false

def acquisitions (events : List (Event α η)) : List (Event α η) :=
  events.filter Event.isAcquisition

theorem acquisitions_append (l l' : List (Event α η)) :
    acquisitions (l ++ l') = acquisitions l ++ acquisitions l' :=
  List.filter_append ..

theorem acquisitions_eq_nil {l : List (Event α η)} (h : ∀ e ∈ l, e.isAcquisition = false) :
    acquisitions l = [] := by
  simpa [acquisitions] using h

theorem acquisitions_closes (fds : List Nat) :
    acquisitions (fds.map (.close : Nat → Event α η)) = [] :=
  acquisitions_eq_nil (by simp [Event.isAcquisition])

theorem acquisitions_reapTrace (last first : Nat) (processes : List η)
    (outcomes : List (Except Fault Exit)) :
    acquisitions (reapTrace last first processes outcomes : List (Event α η)) = [] := by
  refine acquisitions_eq_nil fun e he => ?_
  rcases mem_reapTrace he with ⟨index, process, outcome, rfl⟩ | ⟨w, rfl⟩ <;> rfl

/-- In some state the system refuses the request that an event tells of, which is made to start the
stage at a position. The fault is what the run makes of the refusal. -/
inductive Refused {σ : Type} [Host σ α η] (host : σ) (index : Nat) (stage : Stage) :
    Event α η → Fault → Prop
  | input {path : String} {f : PathFault} {host' : σ} (names : stage.input = some path)
      (answer : Host.openInput path host = (.error f, host')) :
      Refused host index stage (.openInput path (.error f)) (.openInput path f)
  | output {mode : WriteMode} {path : String} {f : PathFault} {host' : σ}
      (names : stage.output = .file mode path)
      (answer : Host.openOutput mode path host = (.error f, host')) :
      Refused host index stage (.openOutput mode path (.error f)) (.openOutput path f)
  | pipe {e : Errno} {host' : σ} (writes : stage.output = .pipe)
      (answer : Host.makePipe host = (.error e, host')) :
      Refused host index stage (.makePipe index (.error e)) (.pipe index e)
  | ends {r w : α} {e : Errno} {made host' : σ} {fds : Nat × Nat} (writes : stage.output = .pipe)
      (answer : Host.makePipe host = (.ok (r, w), made))
      (unkept : KeepsEnds r w made (.error e) host') :
      Refused host index stage (.makePipe index (.ok fds)) (.pipe index e)
  | process {launch : Launch α} {f : Fault} {host' : σ} (here : launch.index = index)
      (its : launch.stage = stage) (answer : Host.spawn launch host = (.error f, host')) :
      Refused host index stage (.spawn launch (.error f)) f

namespace Shell

variable {σ : Type} [Host σ α η] {s t u : Shell σ α η} {events more : List (Event α η)}
  {e : Event α η} {index : Nat} {stage : Stage} {incoming : Option Nat} {f : Fault}

/-- A request that was made to start the stage at a position was refused, and after it nothing was
opened, made or created. -/
def StopsAt (s : Shell σ α η) (events : List (Event α η)) (index : Nat) (stage : Stage)
    (f : Fault) : Prop :=
  ∃ before e after u, events = before ++ e :: after ∧ s.Follows before u ∧
    Refused u.host index stage e f ∧ acquisitions after = []

theorem stopsAt_of_refused (h : Refused s.host index stage e f) : s.StopsAt [e] index stage f :=
  ⟨[], e, [], s, rfl, .nil, h, rfl⟩

theorem StopsAt.append (h : s.StopsAt events index stage f) (hmore : acquisitions more = []) :
    s.StopsAt (events ++ more) index stage f := by
  obtain ⟨before, e, after, u, rfl, hbefore, hrefused, hafter⟩ := h
  refine ⟨before, e, after ++ more, u, by simp, hbefore, hrefused, ?_⟩
  rw [acquisitions_append, hafter, hmore, List.append_nil]

theorem StopsAt.after (h : t.StopsAt more index stage f) (hbefore : s.Follows events t) :
    s.StopsAt (events ++ more) index stage f := by
  obtain ⟨before, e, after, u, rfl, hu, hrefused, hafter⟩ := h
  exact ⟨events ++ before, e, after, u, by simp, hbefore.append hu, hrefused, hafter⟩

def Fails (s t : Shell σ α η) (index : Nat) (stage : Stage) (f : Fault) : Prop :=
  ∃ events, s.Follows events t ∧ s.StopsAt events index stage f

theorem Acts.fails (act : Acts s e t) (h : Refused s.host index stage e f) :
    s.Fails t index stage f :=
  ⟨[e], act.follows, stopsAt_of_refused h⟩

theorem Fails.follows (h : s.Fails t index stage f) (h' : t.Follows more u)
    (hmore : acquisitions more = []) : s.Fails u index stage f := by
  obtain ⟨events, hfollows, hstops⟩ := h
  exact ⟨events ++ more, hfollows.append h', hstops.append hmore⟩

theorem Fails.closeAll (h : s.Fails t index stage f) (fds : List Nat) :
    s.Fails (t.closeAll fds) index stage f :=
  h.follows (follows_closeAll t fds) (acquisitions_closes fds)

theorem Fails.after (h : t.Fails u index stage f) (hbefore : s.Goes t) :
    s.Fails u index stage f := by
  obtain ⟨events, hevents⟩ := hbefore
  obtain ⟨more, hmore, hstops⟩ := h
  exact ⟨events ++ more, hevents.append hmore, hstops.after hevents⟩

theorem fails_resolveInput (h : s.resolveInput stage incoming = (.error f, t)) :
    s.Fails t index stage f := by
  obtain ⟨path, e, hinput, hopen, rfl⟩ := resolveInput_eq_error h
  have act := acts_openInput (s.closeAll incoming.toList) path
  rw [hopen] at act
  exact (act.fails (.input hinput act.operates.openInput_error)).after (goes_closeAll s _)

theorem fails_makePipe {e : Errno} (h : s.makePipe index = (.error e, t))
    (hpipe : stage.output = .pipe) : s.Fails t index stage (.pipe index e) := by
  rcases makePipe_cases s index with ⟨e', host, hmade, hanswer, act⟩ |
    ⟨r, w, made, kept, ends, u, hmade, hkeeps, act, hanswer⟩ <;> rw [h] at hanswer
  · obtain rfl : e = e' := Except.error.inj hanswer
    rw [h] at act
    exact act.fails (.pipe hpipe hmade)
  · rcases kept with e' | _ <;> cases hanswer
    exact (act.fails (.ends hpipe hmade hkeeps)).closeAll _

theorem fails_resolveOutput (h : s.resolveOutput index stage = (.error f, t)) :
    s.Fails t index stage f := by
  rcases resolveOutput_eq_error h with ⟨mode, path, e, houtput, hopen, rfl⟩ |
    ⟨e, houtput, hpipe, rfl⟩
  · have act := acts_openOutput s mode path
    rw [hopen] at act
    exact act.fails (.output houtput act.operates.openOutput_error)
  · exact fails_makePipe hpipe houtput

/-- A stage that is not connected was refused a file or a pipe. -/
theorem fails_resolve (h : s.resolve index stage incoming = (.error f, t)) :
    s.Fails t index stage f := by
  rcases resolve_eq_error h with hin | ⟨c, u, v, hin, hout, rfl⟩
  · exact fails_resolveInput hin
  · have hread := goes_resolveInput s stage incoming
    rw [hin] at hread
    exact ((fails_resolveOutput hout).after hread).closeAll _

theorem fails_spawn {r : Resolved} (h : s.spawn index stage r = (.error f, t)) :
    s.Fails t index stage f := by
  obtain ⟨u, act, ht⟩ := spawn_cases s index stage r
  rw [h] at act ht
  dsimp only at act ht
  rw [ht]
  exact (act.fails (.process rfl rfl act.operates.spawn_eq.2)).closeAll _

/-- A stage that is not started fails by a request that is refused. -/
theorem fails_launch (h : s.launch index stage incoming = (.error f, t)) :
    s.Fails t index stage f := by
  rcases launch_eq_error h with hr | ⟨r, u, v, hr, hs, rfl⟩
  · exact fails_resolve hr
  · have hconnected := goes_resolve s index stage incoming
    rw [hr] at hconnected
    exact ((fails_spawn hs).after hconnected).closeAll _

theorem Started.goes {stages : List Stage} {processes : List η}
    (h : Started s stages processes incoming t) : s.Goes t := by
  induction h with
  | nil => exact .refl s
  | @concat processes incoming _ u t' stage process _ _ launch ih =>
      have hlaunch := goes_launch u processes.length stage incoming
      rw [launch] at hlaunch
      exact ih.trans hlaunch

/-- Stages are not all started only because the next one was refused something. -/
theorem LaunchEnds.fails {stages : List Stage} {processes : List η} {leftover : Option Nat}
    (h : LaunchEnds s stages processes leftover (some f) t) :
    ∃ stage, stages[processes.length]? = some stage ∧ s.Fails t processes.length stage f := by
  cases h with
  | fault started next launch =>
      exact ⟨_, next, ((fails_launch launch).after started.goes).follows
        (acts_warn _ _).follows rfl⟩

/-- If a run ends the starting with a fault, this is why a request was refused that was made for the
stage after those that were started. -/
theorem stopsAt_trace {p : Pipeline} {processes : List η} {leftover : Option Nat}
    {outcomes : List (Except Fault Exit)}
    (hends : LaunchEnds s p.stages processes leftover (some f) t)
    (hrun : (s.run p).2.events = t.events ++ leftover.toList.map .close ++
      reapTrace p.lastIndex 0 processes outcomes) :
    ∃ stage, p.stages[processes.length]? = some stage ∧
      s.StopsAt (s.trace p) processes.length stage f := by
  obtain ⟨stage, hstage, notes, hnotes, hstops⟩ := hends.fails
  refine ⟨stage, hstage, ?_⟩
  rw [hnotes.events_eq, List.append_assoc, List.append_assoc] at hrun
  rw [trace_eq_of_events hrun]
  refine hstops.append ?_
  rw [acquisitions_append, acquisitions_closes, acquisitions_reapTrace, List.append_nil]

end Shell

end ShellPipeline
