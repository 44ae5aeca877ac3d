import ShellPipeline.Proofs.Run.Requests
import ShellPipeline.Proofs.Run.Sandbox

/-!
# What a run leaves alone

Of all that a run asks of the system only the opening of an output can change a file, programs
apart. The output of the last stage is opened if and only if all stages before were started and the
input of the last stage could be opened. So a run that does not come so far leaves alone whatever
only this can change. On a sandbox this is every file that nothing writes to yet.
-/

namespace ShellPipeline

variable {α η : Type} {events more : List (Event α η)} {k : Nat} {stage : Stage}

/-! ## Requests that change nothing -/

/-- No request but the opening of an output can make an end of what holds of the system. -/
structure Host.Spares {σ α η : Type} [Host σ α η] (P : σ → Prop) : Prop where
  openInput : ∀ path host, P host → P (Host.openInput path host).2
  makePipe : ∀ host, P host → P (Host.makePipe host).2
  protect : ∀ a host, P host → P (Host.protect a host).2
  release : ∀ a host, P host → P (Host.release a host)
  spawn : ∀ launch host, P host → P (Host.spawn launch host).2
  wait : ∀ index process host, P host → P (Host.wait index process host).2

section Sparing

variable {σ : Type} [Host σ α η] {P : σ → Prop}

theorem KeepsEnds.spares {r w : α} {host host' : σ} {kept : Except Errno Unit}
    (h : KeepsEnds r w host kept host') (hspares : Host.Spares P) (hP : P host) : P host' := by
  cases h with
  | refused first =>
      have hfirst := hspares.protect r host hP
      rwa [first] at hfirst
  | asked first second =>
      have hfirst := hspares.protect r host hP
      rw [first] at hfirst
      have hsecond := hspares.protect w _ hfirst
      rwa [second] at hsecond

/-- Every operation but the opening of an output spares what nothing else can change. -/
theorem Operates.spares {d d' : Descriptors α} {host host' : σ} {e : Event α η}
    (h : Operates d host e d' host') (hspares : Host.Spares P) (he : outputsOpened [e] = [])
    (hP : P host) : P host' := by
  cases h with
  | @inputRefused path _ _ answer =>
      have hopen := hspares.openInput path host hP
      rwa [answer] at hopen
  | @inputOpened path _ _ answer =>
      have hopen := hspares.openInput path host hP
      rwa [answer] at hopen
  | outputRefused => cases he
  | outputOpened => cases he
  | pipeRefused answer =>
      have hpipe := hspares.makePipe host hP
      rwa [answer] at hpipe
  | pipeMade answer keeps =>
      have hpipe := hspares.makePipe host hP
      rw [answer] at hpipe
      exact keeps.spares hspares hpipe
  | @closed fd a => exact hspares.release a host hP
  | notHeld => exact hP
  | @attempted l _ _ _ answer =>
      have hspawned := hspares.spawn l host hP
      rwa [answer] at hspawned
  | @awaited index process _ _ answer =>
      have hwaited := hspares.wait index process host hP
      rwa [answer] at hwaited
  | warned => exact hP

/-- A run that opens no output spares whatever only this can change. -/
theorem Shell.Follows.spares {s t : Shell σ α η} {events : List (Event α η)}
    (h : s.Follows events t) (hspares : Host.Spares P) (hnone : outputsOpened events = [])
    (hs : P s.host) : P t.host := by
  induction h with
  | nil => exact hs
  | concat _ act ih =>
      rw [outputsOpened_append, List.append_eq_nil_iff] at hnone
      exact act.operates.spares hspares hnone.2 (ih hnone.1)

end Sparing

/-! ## Files of a sandbox -/

namespace Sandbox

variable {h h' : Sandbox} {n : Nat} {content : Option Bytes} {bytes : Bytes} {c : Channel}

/-- A file has some content, or does not exist, and nothing is open that writes to it. -/
structure Untouched (n : Nat) (content : Option Bytes) (h : Sandbox) : Prop where
  content : h.contents n = content
  unwritten : ∀ f ∈ h.files, f.writes = true → f.node ≠ n

theorem Untouched.of_eq (hu : h.Untouched n content) (hcontents : h'.contents = h.contents)
    (hfiles : h'.files = h.files) : h'.Untouched n content where
  content := by rw [hcontents, hu.content]
  unwritten := by rw [hfiles]; exact hu.unwritten

theorem Untouched.request {ε β : Type} {refuse : Errno → ε}
    {answer : Sandbox → Except ε β × Sandbox} (hu : h.Untouched n content)
    (hanswer : (answer h).2.Untouched n content) :
    (request refuse answer h).2.Untouched n content := by
  unfold Sandbox.request
  split
  · exact hu.of_eq rfl rfl
  · exact hanswer.of_eq rfl rfl

theorem Untouched.drain (hu : h.Untouched n content) (c : Channel) :
    (h.drain c).Untouched n content := by
  cases c with
  | file m =>
      refine ⟨hu.content, fun f hf hwrites => ?_⟩
      obtain ⟨i, hi⟩ := List.getElem?_of_mem hf
      rw [Sandbox.drain, List.getElem?_modify] at hi
      obtain ⟨f', hf', rfl⟩ := Option.map_eq_some_iff.mp hi
      -- reading moves the place in the file and nothing else
      have hsame := hu.unwritten f' (List.mem_of_getElem? hf')
      split at hwrites <;> split <;> exact hsame hwrites
  | _ => exact hu.of_eq rfl rfl

theorem Untouched.writeFile (hu : h.Untouched n content) {m : Nat} {f : OpenFile}
    (hf : h.files[m]? = some f) (bytes : Bytes) : (h.writeFile m f bytes).Untouched n content := by
  have hmem := List.mem_of_getElem? hf
  unfold Sandbox.writeFile
  split
  · next hwrites _ =>
    have hnode := hu.unwritten f hmem hwrites
    refine ⟨?_, fun f' hf' hwrites' => ?_⟩
    · exact (Function.update_of_ne hnode.symm _ _).trans hu.content
    · rcases List.mem_or_eq_of_mem_set hf' with hf' | rfl
      · exact hu.unwritten f' hf' hwrites'
      · exact hnode
  · exact hu

theorem Untouched.send (hu : h.Untouched n content) (c : Channel) (bytes : Bytes) :
    (h.send c bytes).Untouched n content := by
  cases c with
  | file m =>
      rw [Sandbox.send]
      cases hf : h.files[m]? with
      | none => exact hu
      | some f => exact hu.writeFile hf bytes
  | _ => exact hu.of_eq rfl rfl

theorem Untouched.perform (hu : h.Untouched n content) (l : Launch Channel) :
    (h.perform l).Untouched n content := by
  have hdrained : ((l.object? l.resolved.wiring.stdin standardInput).elim h h.drain).Untouched
      n content := by
    cases l.object? l.resolved.wiring.stdin standardInput with
    | none => exact hu
    | some c => exact hu.drain c
  simp only [Sandbox.perform]
  rcases (l.object? l.resolved.wiring.stdin standardInput).bind h.offer with _ | bytes
  · exact hu.of_eq rfl rfl
  · cases l.object? l.resolved.wiring.stdout standardOutput with
    | none => exact hdrained.of_eq rfl rfl
    | some c => exact (hdrained.send c _).of_eq rfl rfl

/-- Programs write only to what the shell has opened for writing. -/
theorem spares_untouched (n : Nat) (content : Option Bytes) :
    Host.Spares fun h : Sandbox => h.Untouched n content where
  openInput path h hu := by
    refine hu.request ?_
    dsimp only
    split
    · exact hu
    · refine ⟨hu.content, fun f hf hwrites => ?_⟩
      rcases List.mem_append.mp hf with hf | hf
      · exact hu.unwritten f hf hwrites
      · rw [List.mem_singleton.mp hf] at hwrites
        cases hwrites
  makePipe h hu := hu.request (hu.of_eq rfl rfl)
  protect c h hu := hu.request hu
  release c h hu := by cases c <;> exact hu.of_eq rfl rfl
  spawn l h hu := hu.request (hu.perform l)
  wait _ _ h hu := hu

end Sandbox

/-! ## The output of the last stage -/

/-- What has to come before the output of the last stage is opened. -/
structure OutputDue (p : Pipeline) (events : List (Event α η)) : Prop where
  /-- All stages before the last were started. -/
  started : ∀ i < p.lastIndex, i ∈ created events
  /-- If the last stage names an input file, this was the last one to be opened, and it could be. -/
  fed : ∀ last path, p.stages[p.lastIndex]? = some last → last.input = some path →
    ∃ fd, (inputsOpened events).getLast? = some (path, .ok fd)

section Output

variable {p : Pipeline} {notes : List (Event α η)} {started : Bool}

/-- Before the last stage no output is opened, and none is due. -/
theorem Requested.outputs_of_lt (h : Requested p.stages k notes)
    (hstage : p.stages[k]? = some stage) (hasks : Asks k stage (acquisitions more) false)
    (hlt : k < p.lastIndex) :
    ¬ OutputDue p (notes ++ more) ∧ outputsOpened (notes ++ more) = [] := by
  have hnext : k + 1 < p.stages.length := Nat.add_lt_of_lt_sub hlt
  constructor
  · intro hdue
    have hmem := hdue.started k hlt
    rw [created_append, h.created, ← created_acquisitions more, hasks.created] at hmem
    simp at hmem
  · have hpipe := p.wellWired.output_eq_pipe hstage hnext
    rw [outputsOpened_append, h.outputs (Nat.lt_of_succ_lt hnext), ← outputsOpened_acquisitions,
      hasks.outputs_eq_nil hpipe, List.append_nil]

/-- The output of the last stage is opened when it is due, and only then. -/
theorem Requested.outputs_of_last {last : Stage} (h : Requested p.stages p.lastIndex notes)
    (hlast : p.stages[p.lastIndex]? = some last)
    (hasks : Asks p.lastIndex last (acquisitions more) started) :
    ¬ OutputDue p (notes ++ more) ∧ outputsOpened (notes ++ more) = [] ∨
      OutputDue p (notes ++ more) ∧
        (outputsOpened (notes ++ more)).map Prod.fst = last.output.file?.toList := by
  have houtputs : outputsOpened (notes ++ more) = outputsOpened (acquisitions more) := by
    rw [outputsOpened_append, h.outputs p.lastIndex_lt_length, outputsOpened_acquisitions]
    exact List.nil_append _
  have hinputs : inputsOpened (notes ++ more) =
      inputsOpened notes ++ inputsOpened (acquisitions more) := by
    rw [inputsOpened_append, inputsOpened_acquisitions]
  rw [houtputs]
  rcases hasks.outputs with ⟨hnil, path, e, hinput, hrefused⟩ | ⟨hfed, houts⟩
  · refine Or.inl ⟨fun hdue => ?_, hnil⟩
    obtain ⟨fd, hfd⟩ := hdue.fed last path hlast hinput
    rw [hinputs, hrefused, List.getLast?_concat] at hfd
    cases hfd
  · refine Or.inr ⟨⟨fun i hi => ?_, fun last' path hlast' hinput => ?_⟩, houts⟩
    · rw [created_append, h.created]
      exact List.mem_append_left _ (List.mem_range.mpr hi)
    · obtain rfl : last = last' := Option.some.inj (hlast.symm.trans hlast')
      obtain ⟨fd, hfd⟩ := hfed path hinput
      exact ⟨fd, by rw [hinputs, hfd, List.getLast?_concat]⟩

/-- An output is opened when it is due, and only then. -/
theorem Requested.outputs_due {last : Stage} (h : Requested p.stages k notes)
    (hstage : p.stages[k]? = some stage) (hlast : p.stages[p.lastIndex]? = some last)
    (hasks : Asks k stage (acquisitions more) started)
    (hended : started = true → k = p.lastIndex) :
    ¬ OutputDue p (notes ++ more) ∧ outputsOpened (notes ++ more) = [] ∨
      OutputDue p (notes ++ more) ∧
        (outputsOpened (notes ++ more)).map Prod.fst = last.output.file?.toList := by
  by_cases hk : k = p.lastIndex
  · subst hk
    obtain rfl : stage = last := Option.some.inj (hstage.symm.trans hlast)
    exact h.outputs_of_last hlast hasks
  · obtain rfl : started = false := Bool.eq_false_iff.mpr (mt hended hk)
    have hle : k ≤ p.lastIndex :=
      Nat.le_sub_one_of_lt (List.getElem?_eq_some_iff.mp hstage).1
    exact Or.inl (h.outputs_of_lt hstage hasks (Nat.lt_of_le_of_ne hle hk))

end Output

namespace Shell

variable {σ : Type} [Host σ α η]

/-- In a run from one state to another an output is opened, by one request to the system, and by no
other. What nothing but such a request can change is as it was up to this one, and again from this
one on. -/
def OpensOnce (s t : Shell σ α η) (mode : WriteMode) (path : String)
    (events : List (Event α η)) : Prop :=
  ∃ before outcome after u v answer,
    events = before ++ .openOutput mode path outcome :: after ∧
    s.Follows before u ∧ Acts u (.openOutput mode path outcome) v ∧ v.Follows after t ∧
    Host.openOutput mode path u.host = (answer, v.host) ∧
    outcome = answer.map (fun a => (u.descriptors.add a).1) ∧
    outputsOpened before = [] ∧ outputsOpened after = [] ∧
    ∀ P : σ → Prop, Host.Spares P → (P s.host → P u.host) ∧ (P v.host → P t.host)

/-- Where a run notes one opening of an output, this is its only request to open one. -/
theorem Follows.opensOnce {s t : Shell σ α η} {mode : WriteMode} {path : String}
    {outcome : Except PathFault Nat} {events : List (Event α η)} (h : s.Follows events t)
    (hone : outputsOpened events = [((mode, path), outcome)]) : s.OpensOnce t mode path events := by
  obtain ⟨before, e, after, rfl, hbefore, he, hafter⟩ := List.filterMap_eq_cons_iff.mp hone
  have hnone : outputsOpened before = [] := List.filterMap_eq_nil_iff.mpr hbefore
  obtain rfl : e = .openOutput mode path outcome := by
    cases e <;> simp_all
  obtain ⟨u, v, hu, act, hv⟩ := h.exists_acts
  obtain ⟨answer, hanswer, houtcome⟩ := act.operates.openOutput_eq
  exact ⟨before, outcome, after, u, v, answer, rfl, hu, act, hv, hanswer, houtcome, hnone, hafter,
    fun P hP => ⟨hu.spares hP hnone, hv.spares hP hafter⟩⟩

/-- A run starts stages from the first on, and the inputs that it opens are those of the stages
that it started and of the next one. It opens an output only if the last stage names a file, that
file, by one request, and it does so if and only if all stages before the last were started and the
input of the last one, if it names one, could be opened. Otherwise whatever only this can change is
left as it was. -/
theorem run_opens_output (s : Shell σ α η) (p : Pipeline) :
    ∃ (launched : Nat) (last : Stage),
      p.stages[p.lastIndex]? = some last ∧ launched ≤ p.length ∧
      s.Follows (s.trace p) (s.run p).2 ∧
      created (s.trace p) = List.range launched ∧
      (launched < p.length → ∃ f, (s.run p).1 = .error f) ∧
      (inputsOpened (s.trace p)).map Prod.fst =
        (p.stages.take (launched + 1)).filterMap Stage.input ∧
      (∀ mode path, last.output = .file mode path →
        OutputDue p (s.trace p) ∧
            (∃ outcome, outputsOpened (s.trace p) = [((mode, path), outcome)]) ∧
            s.OpensOnce (s.run p).2 mode path (s.trace p) ∨
          ¬ OutputDue p (s.trace p) ∧ outputsOpened (s.trace p) = []) ∧
      (last.output = .inherit → outputsOpened (s.trace p) = []) ∧
      (outputsOpened (s.trace p) = [] →
        ∀ P : σ → Prop, Host.Spares P → P s.host → P (s.run p).2.host) := by
  have hfollows := follows_trace s p
  obtain ⟨k, stage, fault, notes, more, htrace, hstage, hrequested, hasks, hlast, hfault⟩ :=
    last_attempt_trace s p
  obtain ⟨last, hlaststage⟩ : ∃ last, p.stages[p.lastIndex]? = some last :=
    ⟨_, List.getElem?_eq_getElem p.lastIndex_lt_length⟩
  have hinputs := hrequested.inputs_concat hstage hasks
  have hdue := hrequested.outputs_due hstage hlaststage hasks (by simpa using hlast)
  obtain ⟨launched, hle, hrange, hfailed, htake⟩ :=
    hrequested.exists_launched hstage hasks (by simpa using hlast)
  rw [← htrace] at hinputs hdue hrange
  refine ⟨launched, last, hlaststage, hle, hfollows, hrange, fun hlt => ?_, htake ▸ hinputs, ?_,
    ?_, ?_⟩
  · obtain ⟨f, rfl⟩ : ∃ f, fault = some f := by
      simpa [Option.isSome_iff_exists] using hfailed hlt
    exact ⟨f, hfault f rfl⟩
  · intro mode path hfile
    rcases hdue with hnot | ⟨hdue, hopened⟩
    · exact Or.inr hnot
    · rw [hfile] at hopened
      obtain ⟨⟨file, outcome⟩, hone, rfl⟩ := List.map_eq_singleton_iff.mp hopened
      exact Or.inl ⟨hdue, ⟨outcome, hone⟩, hfollows.opensOnce hone⟩
  · intro hinherit
    rcases hdue with ⟨-, hnil⟩ | ⟨-, hopened⟩
    · exact hnil
    · rw [hinherit] at hopened
      exact List.map_eq_nil_iff.mp hopened
  · exact fun hnone P hP => hfollows.spares hP hnone

def tidy : Shell Sandbox Channel Nat where
  descriptors := ⟨[some .terminal, some .output, some .errors]⟩
  host :=
    { setting := { locate := fun path => if path = "notes" then 0 else 1, programs := fun _ => id }
      contents := fun n => if n = 0 then some [7] else none }

/-- Two stages of which the second reads a file that does not exist and writes the same file. -/
def sortInPlace : Pipeline where
  stages :=
    [{ argv := ["cat"], input := some "notes", output := .pipe },
      { argv := ["sort"], input := some "gone", output := .file .truncate "gone" }]
  wellWired := by decide

/-- The first stage was started, the second was not, and no file has been created or changed. -/
theorem run_opens_output_sortInPlace :
    created (tidy.trace sortInPlace) = [0] ∧
      (∃ f, (tidy.run sortInPlace).1 = .error f) ∧
      ∀ n, (tidy.run sortInPlace).2.host.contents n = tidy.host.contents n := by
  obtain ⟨launched, last, -, -, -, hcreated, hfailed, -, -, -, hspared⟩ :=
    run_opens_output tidy sortInPlace
  have hone : created (tidy.trace sortInPlace) = [0] := rfl
  have hlaunched : launched = 1 := by
    have hlength := congrArg List.length (hcreated.symm.trans hone)
    simpa using hlength
  have hnone : outputsOpened (tidy.trace sortInPlace) = [] := rfl
  refine ⟨hone, hfailed (by rw [hlaunched]; decide), fun n => ?_⟩
  have huntouched : tidy.host.Untouched n (tidy.host.contents n) :=
    ⟨rfl, fun f hf => by cases hf⟩
  exact (hspared hnone _ (Sandbox.spares_untouched n _) huntouched).content

end Shell

end ShellPipeline
