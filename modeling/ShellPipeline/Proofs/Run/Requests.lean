import Mathlib.Data.List.Nodup
import ShellPipeline.Proofs.Run.Refusals

/-!
# What a run opens

To start a stage the shell opens its input, then its output, then creates its process, and nothing
more is asked of the system as soon as one of these is refused. The stages before the last write
pipes, one each.
-/

namespace ShellPipeline

variable {α η : Type} {events more l l' : List (Event α η)} {index k : Nat} {stage : Stage}
  {stages : List Stage}

def inputsOpened (events : List (Event α η)) : List (String × Except PathFault Nat) :=
  events.filterMap fun
    | .openInput path outcome => some (path, outcome)
    | _ => none

def outputsOpened (events : List (Event α η)) :
    List ((WriteMode × String) × Except PathFault Nat) :=
  events.filterMap fun
    | .openOutput mode path outcome => some ((mode, path), outcome)
    | _ => none

def pipesMade (events : List (Event α η)) : List (Nat × Except Errno (Nat × Nat)) :=
  events.filterMap fun
    | .makePipe i outcome => some (i, outcome)
    | _ => none

/-- The positions of the stages of which processes were created. -/
def created (events : List (Event α η)) : List Nat :=
  events.filterMap fun
    | .spawn launch (.ok _) => some launch.index
    | _ => none

section Projections

variable (l l' : List (Event α η))

theorem inputsOpened_append : inputsOpened (l ++ l') = inputsOpened l ++ inputsOpened l' :=
  List.filterMap_append

theorem outputsOpened_append : outputsOpened (l ++ l') = outputsOpened l ++ outputsOpened l' :=
  List.filterMap_append

theorem pipesMade_append : pipesMade (l ++ l') = pipesMade l ++ pipesMade l' :=
  List.filterMap_append

theorem created_append : created (l ++ l') = created l ++ created l' :=
  List.filterMap_append

theorem inputsOpened_acquisitions : inputsOpened (acquisitions l) = inputsOpened l := by
  rw [inputsOpened, acquisitions, List.filterMap_filter]
  refine List.filterMap_congr fun e _ => ?_
  cases e <;> rfl

theorem outputsOpened_acquisitions : outputsOpened (acquisitions l) = outputsOpened l := by
  rw [outputsOpened, acquisitions, List.filterMap_filter]
  refine List.filterMap_congr fun e _ => ?_
  cases e <;> rfl

theorem pipesMade_acquisitions : pipesMade (acquisitions l) = pipesMade l := by
  rw [pipesMade, acquisitions, List.filterMap_filter]
  refine List.filterMap_congr fun e _ => ?_
  cases e <;> rfl

theorem created_acquisitions : created (acquisitions l) = created l := by
  rw [created, acquisitions, List.filterMap_filter]
  refine List.filterMap_congr fun e _ => ?_
  cases e <;> rfl

end Projections

/-! ## One stage -/

/-- What is opened to connect the input of a stage. -/
inductive Reads (stage : Stage) : List (Event α η) → Prop
  | nothing (names : stage.input = none) : Reads stage []
  | file {path : String} {fd : Nat} (names : stage.input = some path) :
      Reads stage [.openInput path (.ok fd)]

/-- What is opened to connect the output of the stage at a position, and whether it is connected. -/
inductive Writes (index : Nat) (stage : Stage) : List (Event α η) → Bool → Prop
  | nothing (names : stage.output = .inherit) : Writes index stage [] true
  | file {mode : WriteMode} {path : String} {outcome : Except PathFault Nat}
      (names : stage.output = .file mode path) :
      Writes index stage [.openOutput mode path outcome] outcome.isOk
  | pipe {fds : Nat × Nat} (names : stage.output = .pipe) :
      Writes index stage [.makePipe index (.ok fds)] true
  /-- A pipe that is made is of no use if its ends cannot be kept from programs. -/
  | noPipe {outcome : Except Errno (Nat × Nat)} (names : stage.output = .pipe) :
      Writes index stage [.makePipe index outcome] false

/-- What is asked of the system to start the stage at a position, and whether it was started. -/
inductive Asks (index : Nat) (stage : Stage) : List (Event α η) → Bool → Prop
  | unread {path : String} {f : PathFault} (names : stage.input = some path) :
      Asks index stage [.openInput path (.error f)] false
  | unwritten {ins outs : List (Event α η)} (reads : Reads stage ins)
      (writes : Writes index stage outs false) : Asks index stage (ins ++ outs) false
  | tried {ins outs : List (Event α η)} {launch : Launch α} {outcome : Except Fault η}
      (reads : Reads stage ins) (writes : Writes index stage outs true)
      (here : launch.index = index) (its : launch.stage = stage) :
      Asks index stage (ins ++ outs ++ [.spawn launch outcome]) outcome.isOk

/-- What is asked of the system for stages, one after the other, up to the first that is not
started. -/
inductive AsksFrom : Nat → List Stage → List (Event α η) → Prop
  | nil {index : Nat} : AsksFrom index [] []
  | stop {index : Nat} {stage : Stage} {rest : List Stage} {l : List (Event α η)}
      (asks : Asks index stage l false) : AsksFrom index (stage :: rest) l
  | next {index : Nat} {stage : Stage} {rest : List Stage} {l l' : List (Event α η)}
      (asks : Asks index stage l true) (more : AsksFrom (index + 1) rest l') :
      AsksFrom index (stage :: rest) (l ++ l')

namespace Shell

variable {σ : Type} [Host σ α η]

theorem acquisitions_resolveInput (s : Shell σ α η) (stage : Stage) (incoming : Option Nat) :
    ∃ notes, (s.resolveInput stage incoming).2.events = s.events ++ notes ∧
      ((∃ c, (s.resolveInput stage incoming).1 = .ok c ∧ Reads stage (acquisitions notes)) ∨
        ∃ f path e, (s.resolveInput stage incoming).1 = .error f ∧ stage.input = some path ∧
          acquisitions notes = [.openInput path (.error e)]) := by
  rcases hinput : stage.input with _ | path
  · refine ⟨[], ?_, Or.inl ?_⟩
    · cases incoming <;> simp [resolveInput, hinput]
    · cases incoming <;> simpa [resolveInput, hinput] using .nothing hinput
  · have hevents := (acts_openInput (s.closeAll incoming.toList) path).events_eq
    rw [events_closeAll, List.append_assoc] at hevents
    rcases ho : (s.closeAll incoming.toList).openInput path with ⟨e | fd, t⟩ <;>
      rw [ho] at hevents
    · refine ⟨_, by simpa only [resolveInput, hinput, ho] using hevents,
        Or.inr ⟨.openInput path e, path, e, by simp only [resolveInput, hinput, ho], rfl, ?_⟩⟩
      rw [acquisitions_append, acquisitions_closes]
      rfl
    · refine ⟨_, by simpa only [resolveInput, hinput, ho] using hevents,
        Or.inl ⟨.file fd, by simp only [resolveInput, hinput, ho], ?_⟩⟩
      rw [acquisitions_append, acquisitions_closes]
      exact .file hinput

theorem writes_makePipe (s : Shell σ α η) (index : Nat) (hpipe : stage.output = .pipe) :
    ∃ notes, (s.makePipe index).2.events = s.events ++ notes ∧
      Writes index stage (acquisitions notes) (s.makePipe index).1.isOk := by
  rcases makePipe_cases s index with ⟨e, host, -, hanswer, act⟩ |
    ⟨r, w, made, kept, ends, t, -, -, act, hanswer⟩
  · exact ⟨_, act.events_eq, by rw [hanswer]; exact .noPipe hpipe⟩
  · rw [hanswer]
    rcases kept with e | _
    · refine ⟨_, by rw [events_closeAll, act.events_eq, List.append_assoc], ?_⟩
      rw [acquisitions_append, acquisitions_closes]
      exact .noPipe hpipe
    · exact ⟨_, act.events_eq, .pipe hpipe⟩

theorem writes_resolveOutput (s : Shell σ α η) (index : Nat) (stage : Stage) :
    ∃ notes, (s.resolveOutput index stage).2.events = s.events ++ notes ∧
      Writes index stage (acquisitions notes) (s.resolveOutput index stage).1.isOk := by
  rcases houtput : stage.output with _ | _ | ⟨mode, path⟩
  · refine ⟨[], by simp [resolveOutput, houtput], ?_⟩
    simp only [resolveOutput, houtput]
    exact .nothing houtput
  · obtain ⟨notes, hevents, hwrites⟩ := writes_makePipe s index houtput
    refine ⟨notes, ?_, ?_⟩ <;>
      rcases hm : s.makePipe index with ⟨e | ⟨r, w⟩, t⟩ <;> rw [hm] at hevents hwrites <;>
      simpa only [resolveOutput, houtput, hm] using by assumption
  · have hevents := (acts_openOutput s mode path).events_eq
    have hwrites : Writes index stage
        (acquisitions [(.openOutput mode path (s.openOutput mode path).1 : Event α η)])
        (s.openOutput mode path).1.isOk := .file houtput
    refine ⟨[.openOutput mode path (s.openOutput mode path).1], ?_, ?_⟩ <;>
      rcases ho : s.openOutput mode path with ⟨e | fd, t⟩ <;> rw [ho] at hevents hwrites <;>
      simpa only [resolveOutput, houtput, ho] using by assumption

theorem acquisitions_resolve (s : Shell σ α η) (index : Nat) (stage : Stage)
    (incoming : Option Nat) :
    ∃ notes, (s.resolve index stage incoming).2.events = s.events ++ notes ∧
      ((∃ r ins outs, (s.resolve index stage incoming).1 = .ok r ∧ Reads stage ins ∧
          Writes index stage outs true ∧ acquisitions notes = ins ++ outs) ∨
        ∃ f, (s.resolve index stage incoming).1 = .error f ∧
          Asks index stage (acquisitions notes) false) := by
  obtain ⟨ins, hu, hin⟩ := acquisitions_resolveInput s stage incoming
  rcases hi : s.resolveInput stage incoming with ⟨f | stdin, u⟩ <;> rw [hi] at hu hin
  · rcases hin with ⟨c, hc, -⟩ | ⟨f', path, e, -, hinput, hins⟩
    · cases hc
    · refine ⟨ins, by simpa only [resolve, hi] using hu,
        Or.inr ⟨f, by simp only [resolve, hi], ?_⟩⟩
      rw [hins]
      exact .unread hinput
  · rcases hin with ⟨c, -, hreads⟩ | ⟨f, path, e, hf, -⟩
    swap
    · cases hf
    obtain ⟨outs, hv, hwrites⟩ := writes_resolveOutput u index stage
    dsimp only at hu
    rw [hu, List.append_assoc] at hv
    rcases ho : u.resolveOutput index stage with ⟨f | ⟨stdout, downstream⟩, v⟩ <;>
      rw [ho] at hv hwrites <;> dsimp only at hv
    · refine ⟨ins ++ outs ++ stdin.descriptor?.toList.map .close, ?_,
        Or.inr ⟨f, by simp only [resolve, hi, ho], ?_⟩⟩
      · simp only [resolve, hi, ho, events_closeAll, hv, List.append_assoc]
      · rw [acquisitions_append, acquisitions_append, acquisitions_closes, List.append_nil]
        exact .unwritten hreads hwrites
    · refine ⟨ins ++ outs, by simpa only [resolve, hi, ho] using hv,
        Or.inl ⟨_, _, _, by simp only [resolve, hi, ho]; rfl, hreads, hwrites, ?_⟩⟩
      exact acquisitions_append _ _

/-- To start a stage, the shell asks for its input, its output and its process, up to the first
refusal. -/
theorem asks_launch (s : Shell σ α η) (index : Nat) (stage : Stage) (incoming : Option Nat) :
    ∃ notes, (s.launch index stage incoming).2.events = s.events ++ notes ∧
      Asks index stage (acquisitions notes) (s.launch index stage incoming).1.isOk := by
  obtain ⟨setup, hu, hsetup⟩ := acquisitions_resolve s index stage incoming
  rcases hr : s.resolve index stage incoming with ⟨f | r, u⟩ <;> rw [hr] at hu hsetup
  · rcases hsetup with ⟨r, ins, outs, h, -⟩ | ⟨f', -, hasks⟩
    · cases h
    · refine ⟨setup, by simpa only [launch, hr] using hu, ?_⟩
      simp only [launch, hr]
      exact hasks
  · rcases hsetup with ⟨r', ins, outs, -, hreads, hwrites, hnotes⟩ | ⟨f, h, -⟩
    swap
    · cases h
    have hv := events_spawn u index stage r
    dsimp only at hu
    rw [hu, List.append_assoc] at hv
    have hspawned : ∀ outcome : Except Fault η,
        acquisitions (setup ++ u.attempt index stage r outcome ::
            r.wiring.descriptors.map .close) =
          ins ++ outs ++ [u.attempt index stage r outcome] := by
      intro outcome
      rw [acquisitions_append, hnotes, ← List.singleton_append, acquisitions_append,
        acquisitions_closes]
      rfl
    rcases hs : u.spawn index stage r with ⟨f | process, v⟩ <;> rw [hs] at hv <;>
      dsimp only at hv
    · refine ⟨(setup ++ u.attempt index stage r (.error f) ::
        r.wiring.descriptors.map .close) ++ r.downstream.toList.map .close, ?_, ?_⟩
      · simp only [launch, hr, hs, events_closeAll, hv]
        exact List.append_assoc ..
      rw [acquisitions_append, hspawned, acquisitions_closes, List.append_nil]
      simp only [launch, hr, hs]
      exact .tried hreads hwrites rfl rfl
    · refine ⟨_, by simpa only [launch, hr, hs] using hv, ?_⟩
      rw [hspawned]
      simp only [launch, hr, hs]
      exact .tried hreads hwrites rfl rfl

theorem asksFrom_launchAll (s : Shell σ α η) (index : Nat) (incoming : Option Nat)
    (stages : List Stage) :
    ∃ notes, (s.launchAll index incoming stages).2.events = s.events ++ notes ∧
      AsksFrom index stages (acquisitions notes) := by
  induction stages generalizing s index incoming with
  | nil => exact ⟨[], (List.append_nil _).symm, .nil⟩
  | cons stage rest ih =>
      obtain ⟨notes, hu, hasks⟩ := asks_launch s index stage incoming
      unfold launchAll
      rcases hl : s.launch index stage incoming with ⟨f | ⟨process, downstream⟩, u⟩ <;>
        rw [hl] at hu hasks <;> dsimp only at hu ⊢
      · refine ⟨notes ++ [.warn (.aborting index stage.program f)], ?_, ?_⟩
        · rw [events_warn, hu, List.append_assoc]
        · rw [acquisitions_append]
          exact .stop ((List.append_nil _).symm ▸ hasks)
      · obtain ⟨more, ht, hmore⟩ := ih u (index + 1) downstream
        refine ⟨notes ++ more, by rw [ht, hu, List.append_assoc], ?_⟩
        rw [acquisitions_append]
        exact .next hasks hmore

/-- What a run asks of the system besides to close and to wait, it asks for its stages from the
first on, and for no stage after one that is not started. -/
theorem asksFrom_trace (s : Shell σ α η) (p : Pipeline) :
    AsksFrom 0 p.stages (acquisitions (s.trace p)) := by
  obtain ⟨notes, ht, hasks⟩ := asksFrom_launchAll s 0 none p.stages
  obtain ⟨processes, leftover, fault, t, -, hl⟩ := launchAll_launchEnds s p.stages
  obtain ⟨outcomes, -, -, hrun, -⟩ := run_of_launchAll hl
  rw [hl] at ht
  rw [trace_eq_of_events (by rw [hrun, ht, List.append_assoc, List.append_assoc]),
    acquisitions_append, acquisitions_append, acquisitions_closes, acquisitions_reapTrace]
  exact (List.append_nil _).symm ▸ hasks

end Shell

section Asking

variable {connected started : Bool}

theorem Reads.inputs (h : Reads stage l) :
    (inputsOpened l).map Prod.fst = stage.input.toList ∧
      ∀ path, stage.input = some path → ∃ fd, inputsOpened l = [(path, .ok fd)] := by
  cases h with
  | nothing names => simp [names, inputsOpened]
  | @file path fd names => simp [names, inputsOpened]

theorem Reads.others (h : Reads stage l) :
    outputsOpened l = [] ∧ pipesMade l = [] ∧ created l = [] := by
  cases h <;> exact ⟨rfl, rfl, rfl⟩

theorem Writes.others (h : Writes index stage l connected) :
    inputsOpened l = [] ∧ created l = [] := by
  cases h <;> exact ⟨rfl, rfl⟩

theorem Writes.pipes (h : Writes index stage l connected) :
    ((pipesMade l).map Prod.fst).Sublist [index] ∧
      (stage.output ≠ .pipe → pipesMade l = []) := by
  cases h with
  | nothing => exact ⟨List.nil_sublist _, fun _ => rfl⟩
  | file => exact ⟨List.nil_sublist _, fun _ => rfl⟩
  | pipe names => exact ⟨List.Sublist.refl _, absurd names⟩
  | noPipe names => exact ⟨List.Sublist.refl _, absurd names⟩

theorem Writes.outputs (h : Writes index stage l connected) :
    (outputsOpened l).map Prod.fst = stage.output.file?.toList := by
  cases h with
  | nothing names => simp [names, outputsOpened, Output.file?]
  | file names => simp [names, outputsOpened, Output.file?]
  | pipe names => simp [names, outputsOpened, Output.file?]
  | noPipe names => simp [names, outputsOpened, Output.file?]

theorem Asks.inputs (h : Asks index stage l started) :
    (inputsOpened l).map Prod.fst = stage.input.toList := by
  cases h with
  | unread names => simp [names, inputsOpened]
  | unwritten reads writes =>
      rw [inputsOpened_append, writes.others.1, List.append_nil, reads.inputs.1]
  | tried reads writes =>
      rw [inputsOpened_append, inputsOpened_append, writes.others.1, List.append_nil,
        List.map_append, reads.inputs.1]
      exact List.append_nil _

theorem Asks.created (h : Asks index stage l started) :
    created l = if started then [index] else [] := by
  cases h with
  | unread => rfl
  | unwritten reads writes =>
      rw [created_append, reads.others.2.2, writes.others.2]
      rfl
  | @tried ins outs launch outcome reads writes here _ =>
      rw [created_append, created_append, reads.others.2.2, writes.others.2]
      cases outcome with
      | error => rfl
      | ok => exact congrArg (fun i => [i]) here

theorem Asks.pipes (h : Asks index stage l started) :
    ((pipesMade l).map Prod.fst).Sublist [index] ∧
      (stage.output ≠ .pipe → pipesMade l = []) := by
  cases h with
  | unread => exact ⟨List.nil_sublist _, fun _ => rfl⟩
  | unwritten reads writes =>
      rw [pipesMade_append, reads.others.2.1]
      exact writes.pipes
  | @tried ins outs launch outcome reads writes =>
      have houts : pipesMade (ins ++ outs ++ [.spawn launch outcome]) = pipesMade outs := by
        rw [pipesMade_append, pipesMade_append, reads.others.2.1, List.nil_append]
        exact List.append_nil _
      rw [houts]
      exact writes.pipes

/-- The output is opened when the input, if there is one to open, could be opened. -/
theorem Asks.outputs (h : Asks index stage l started) :
    (outputsOpened l = [] ∧ ∃ path e, stage.input = some path ∧
        inputsOpened l = [(path, .error e)]) ∨
      (∀ path, stage.input = some path → ∃ fd, inputsOpened l = [(path, .ok fd)]) ∧
        (outputsOpened l).map Prod.fst = stage.output.file?.toList := by
  cases h with
  | @unread path e names => exact Or.inl ⟨rfl, path, e, names, rfl⟩
  | unwritten reads writes =>
      rw [inputsOpened_append, outputsOpened_append, reads.others.1, writes.others.1,
        List.append_nil, List.nil_append]
      exact Or.inr ⟨reads.inputs.2, writes.outputs⟩
  | @tried ins outs launch outcome reads writes =>
      have hins : inputsOpened (ins ++ outs ++ [.spawn launch outcome]) = inputsOpened ins := by
        rw [inputsOpened_append, inputsOpened_append, writes.others.1, List.append_nil]
        exact List.append_nil _
      have houts : outputsOpened (ins ++ outs ++ [.spawn launch outcome]) =
          outputsOpened outs := by
        rw [outputsOpened_append, outputsOpened_append, reads.others.1, List.nil_append]
        exact List.append_nil _
      rw [hins, houts]
      exact Or.inr ⟨reads.inputs.2, writes.outputs⟩

theorem Asks.outputs_eq_nil (h : Asks index stage l started) (hpipe : stage.output = .pipe) :
    outputsOpened l = [] := by
  rcases h.outputs with ⟨hnil, -⟩ | ⟨-, houtputs⟩
  · exact hnil
  · rw [hpipe] at houtputs
    exact List.map_eq_nil_iff.mp houtputs

end Asking

/-! ## The stages before the last attempt -/

/-- What was asked of the system to start the first stages, which were all started. -/
structure Requested (stages : List Stage) (k : Nat) (events : List (Event α η)) : Prop where
  created : created events = List.range k
  inputs : (inputsOpened events).map Prod.fst = (stages.take k).filterMap Stage.input
  outputs : k < stages.length → outputsOpened events = []
  pipes : ((pipesMade events).map Prod.fst).Sublist (List.range (min k (stages.length - 1)))

theorem Requested.nil : Requested stages 0 ([] : List (Event α η)) :=
  ⟨rfl, rfl, fun _ => rfl, List.nil_sublist _⟩

theorem Requested.pipes_concat {started : Bool} (h : Requested stages k events)
    (hwell : WellWired stages) (hstage : stages[k]? = some stage)
    (hasks : Asks k stage (acquisitions more) started) :
    ((pipesMade (events ++ more)).map Prod.fst).Sublist
      (List.range (min (k + 1) (stages.length - 1))) := by
  obtain ⟨hpipes, hnone⟩ := hasks.pipes
  rw [pipesMade_append, List.map_append, ← pipesMade_acquisitions more]
  by_cases hpipe : stage.output = .pipe
  · have hlt := (List.getElem?_eq_some_iff.mp hstage).1
    have hlast := mt (hwell.output_ne_pipe hstage) (not_not.mpr hpipe)
    have hmin : min (k + 1) (stages.length - 1) = min k (stages.length - 1) + 1 := by omega
    have hk : min k (stages.length - 1) = k := by omega
    rw [hmin, List.range_succ]
    exact h.pipes.append (hk.symm ▸ hpipes)
  · rw [hnone hpipe, List.map_nil, List.append_nil]
    exact h.pipes.trans (List.range_sublist.mpr (by omega))

theorem Requested.inputs_concat {started : Bool} (h : Requested stages k events)
    (hstage : stages[k]? = some stage)
    (hasks : Asks k stage (acquisitions more) started) :
    (inputsOpened (events ++ more)).map Prod.fst =
      (stages.take (k + 1)).filterMap Stage.input := by
  rw [inputsOpened_append, List.map_append, h.inputs, ← inputsOpened_acquisitions more,
    hasks.inputs, List.take_add_one, hstage, List.filterMap_append]
  cases hinput : stage.input <;> simp [hinput]

/-- One more stage that was started adds its own requests. -/
theorem Requested.concat (h : Requested stages k events) (hwell : WellWired stages)
    (hstage : stages[k]? = some stage)
    (hasks : Asks k stage (acquisitions more) true) :
    Requested stages (k + 1) (events ++ more) where
  created := by
    rw [created_append, h.created, ← created_acquisitions more, hasks.created, List.range_succ]
    rfl
  inputs := h.inputs_concat hstage hasks
  outputs := by
    intro hlt
    have hpipe := hwell.output_eq_pipe hstage hlt
    rw [outputsOpened_append, h.outputs (Nat.lt_of_succ_lt hlt), ← outputsOpened_acquisitions,
      hasks.outputs_eq_nil hpipe, List.append_nil]
  pipes := h.pipes_concat hwell hstage hasks

/-- The processes that are created in the end are those of the first stages. -/
theorem Requested.exists_launched {p : Pipeline} {started : Bool}
    (h : Requested p.stages k events) (hstage : p.stages[k]? = some stage)
    (hasks : Asks k stage (acquisitions more) started)
    (hended : started = true → k = p.lastIndex) :
    ∃ launched ≤ p.length, ShellPipeline.created (events ++ more) = List.range launched ∧
      (launched < p.length → started = false) ∧
      p.stages.take (k + 1) = p.stages.take (launched + 1) := by
  have hlt : k < p.length := (List.getElem?_eq_some_iff.mp hstage).1
  have hcreated : ShellPipeline.created (events ++ more) =
      List.range k ++ if started then [k] else [] := by
    rw [created_append, h.created, ← created_acquisitions more, hasks.created]
  cases started with
  | false => exact ⟨k, Nat.le_of_lt hlt, hcreated.trans (List.append_nil _), fun _ => rfl, rfl⟩
  | true =>
      have hlength : k + 1 = p.length := by
        rw [hended rfl, Pipeline.lastIndex, Nat.sub_add_cancel (Nat.zero_lt_of_lt hlt)]
      refine ⟨k + 1, hlt, hcreated.trans List.range_succ.symm,
        fun h => absurd h (hlength ▸ Nat.lt_irrefl _), ?_⟩
      rw [List.take_of_length_le (Nat.le_of_eq hlength.symm),
        List.take_of_length_le (Nat.le_succ_of_le (Nat.le_of_eq hlength.symm))]

namespace Shell

variable {σ : Type} [Host σ α η] {s t : Shell σ α η} {processes : List η}

/-- What was asked for the stages that were started can be read off the pipeline. -/
theorem Started.requested {incoming : Option Nat} (h : Started s stages processes incoming t)
    (hwell : WellWired stages) :
    ∃ notes, t.events = s.events ++ notes ∧ Requested stages processes.length notes := by
  induction h with
  | nil => exact ⟨[], by simp, .nil⟩
  | @concat processes incoming downstream u t' stage process before next launch ih =>
      obtain ⟨notes, hu, hrequested⟩ := ih
      obtain ⟨more, ht, hasks⟩ := asks_launch u processes.length stage incoming
      rw [launch] at ht hasks
      refine ⟨notes ++ more, by rw [ht, hu, List.append_assoc], ?_⟩
      rw [List.length_append, List.length_singleton]
      exact hrequested.concat hwell next hasks

/-- The last stage that the shell tries to start is the last of all, or one that cannot be
started. -/
theorem LaunchEnds.last_attempt {leftover : Option Nat} {fault : Option Fault}
    (h : LaunchEnds s stages processes leftover fault t) (hwell : WellWired stages) :
    ∃ (k : Nat) (stage : Stage) (notes more : List (Event α η)),
      t.events = s.events ++ (notes ++ more) ∧
      stages[k]? = some stage ∧ Requested stages k notes ∧
      Asks k stage (acquisitions more) fault.isNone ∧
      (fault = none → k + 1 = stages.length) := by
  cases h with
  | all started length =>
      cases started with
      | nil => exact absurd (List.length_eq_zero_iff.mp length.symm) hwell.ne_nil
      | @concat processes incoming _ u _ stage process before next launch =>
          obtain ⟨notes, hu, hrequested⟩ := before.requested hwell
          obtain ⟨more, ht, hasks⟩ := asks_launch u processes.length stage incoming
          rw [launch] at ht hasks
          refine ⟨processes.length, stage, notes, more, ?_, next, hrequested, hasks,
            fun _ => by simpa using length⟩
          rw [ht, hu, List.append_assoc]
  | @fault incoming u t' stage f started next launch =>
      obtain ⟨notes, hu, hrequested⟩ := started.requested hwell
      obtain ⟨more, ht, hasks⟩ := asks_launch u processes.length stage incoming
      rw [launch] at ht hasks
      refine ⟨processes.length, stage, notes,
        more ++ [.warn (.aborting processes.length stage.program f)], ?_, next, hrequested, ?_,
        fun h => by cases h⟩
      · rw [events_warn, ht, hu, List.append_assoc, List.append_assoc]
      · rw [acquisitions_append]
        exact (List.append_nil _).symm ▸ hasks

/-- A run starts some of the first stages and tries to start the next one, which is the last of
all unless it cannot be started. -/
theorem last_attempt_trace (s : Shell σ α η) (p : Pipeline) :
    ∃ (k : Nat) (stage : Stage) (fault : Option Fault) (notes more : List (Event α η)),
      s.trace p = notes ++ more ∧ p.stages[k]? = some stage ∧ Requested p.stages k notes ∧
      Asks k stage (acquisitions more) fault.isNone ∧
      (fault = none → k = p.lastIndex) ∧ ∀ f, fault = some f → (s.run p).1 = .error f := by
  obtain ⟨processes, leftover, fault, t, outcomes, hends, -, -, hrun, hresult⟩ := run_phases s p
  obtain ⟨k, stage, notes, more, ht, hstage, hrequested, hasks, hlast⟩ :=
    hends.last_attempt p.wellWired
  refine ⟨k, stage, fault, notes, more ++ (leftover.toList.map .close ++
    reapTrace p.lastIndex 0 processes outcomes), trace_eq_of_events ?_, hstage, hrequested, ?_,
    fun hnone => Nat.eq_sub_of_add_eq (hlast hnone), ?_⟩
  · simp only [hrun, ht, List.append_assoc]
  · rw [acquisitions_append, acquisitions_append, acquisitions_closes, acquisitions_reapTrace]
    exact (List.append_nil _).symm ▸ hasks
  · rintro f rfl
    exact hresult

/-- Processes are created of the first stages, in order. -/
theorem exists_created (s : Shell σ α η) (p : Pipeline) :
    ∃ launched ≤ p.length, created (s.trace p) = List.range launched := by
  obtain ⟨k, stage, fault, notes, more, htrace, hstage, hrequested, hasks, hlast, -⟩ :=
    last_attempt_trace s p
  obtain ⟨launched, hle, hrange, -⟩ :=
    hrequested.exists_launched hstage hasks (by simpa using hlast)
  exact ⟨launched, hle, by rw [htrace, hrange]⟩

/-- Pipes are made for stages before the last, and for each at most one. -/
theorem pipesMade_sublist (s : Shell σ α η) (p : Pipeline) :
    ((pipesMade (s.trace p)).map Prod.fst).Sublist (List.range p.lastIndex) := by
  obtain ⟨k, stage, fault, notes, more, htrace, hstage, hrequested, hasks, -⟩ :=
    last_attempt_trace s p
  rw [htrace]
  exact (hrequested.pipes_concat p.wellWired hstage hasks).trans
    (List.range_sublist.mpr (Nat.min_le_right _ _))

theorem lt_lastIndex_of_makePipe {p : Pipeline} {i : Nat} {outcome : Except Errno (Nat × Nat)}
    (h : .makePipe i outcome ∈ s.trace p) : i < p.lastIndex := by
  have hmem : (i, outcome) ∈ pipesMade (s.trace p) := List.mem_filterMap.mpr ⟨_, h, rfl⟩
  exact List.mem_range.mp ((pipesMade_sublist s p).subset (List.mem_map_of_mem hmem))

/-- No stage has two pipes. -/
theorem not_makePipe_twice {p : Pipeline} {k k' i : Nat}
    {outcome outcome' : Except Errno (Nat × Nat)}
    (hk : (s.trace p)[k]? = some (.makePipe i outcome))
    (hk' : (s.trace p)[k']? = some (.makePipe i outcome')) : ¬ k < k' := by
  intro hlt
  have hnodup := (pipesMade_sublist s p).nodup List.nodup_range
  rw [pipesMade, List.map_filterMap, List.Nodup, List.pairwise_filterMap,
    List.pairwise_iff_getElem] at hnodup
  obtain ⟨hlength, he⟩ := List.getElem?_eq_some_iff.mp hk
  obtain ⟨hlength', he'⟩ := List.getElem?_eq_some_iff.mp hk'
  refine hnodup k k' hlength hlength' hlt i ?_ i ?_ rfl
  · rw [he]
    rfl
  · rw [he']
    rfl

/-- For one stage only one pipe is made. -/
theorem makePipe_unique {p : Pipeline} {k k' i : Nat} {outcome outcome' : Except Errno (Nat × Nat)}
    (hk : (s.trace p)[k]? = some (.makePipe i outcome))
    (hk' : (s.trace p)[k']? = some (.makePipe i outcome')) : k = k' :=
  Nat.le_antisymm (Nat.le_of_not_lt (not_makePipe_twice hk' hk))
    (Nat.le_of_not_lt (not_makePipe_twice hk hk'))

end Shell

end ShellPipeline
