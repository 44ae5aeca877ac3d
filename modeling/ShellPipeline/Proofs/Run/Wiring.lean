import ShellPipeline.Proofs.Run.Connection
import ShellPipeline.Proofs.Run.Steps

/-!
# What the stages of a run are connected to

Descriptors are numbers that come back, so a descriptor is told from others by the event that opened
it: it stands for what that event opened as long as nothing has opened or closed it since. In this
sense every stage is given its own file or the pipe of the stage before, and its own pipe or file to
write, and nothing is ever given to two stages.

Between two stages one read end is carried over. The invariant of the starting says where it comes
from: from the pipe whose write end the stage just started was given.
-/

namespace ShellPipeline

variable {α η : Type} {events more : List (Event α η)} {e e' : Event α η} {k k' fd : Nat}

/-- The descriptor stands for what the event at a position opened. -/
structure OpenSince (events : List (Event α η)) (k : Nat) (e : Event α η) (fd : Nat) : Prop where
  here : events[k]? = some e
  opened : fd ∈ e.opened
  untouched : ∀ m e', k < m → events[m]? = some e' → fd ∉ e'.opened ∧ fd ∉ e'.closed

/-- The descriptor was opened in connecting the stage that is started now. -/
structure JustOpened (events : List (Event α η)) (k : Nat) (e : Event α η) (fd : Nat) : Prop
    extends OpenSince events k e fd where
  fresh : ∀ m e', k < m → events[m]? = some e' → e'.isSetup = true

/-- The descriptor is the read end of the pipe that was made for the stage at a position, and the
process of that stage was given the write end. -/
def HandedOver (events : List (Event α η)) (i readEnd : Nat) : Prop :=
  ∃ (k writeEnd j : Nat) (launch : Launch α) (process : η),
    OpenSince events k (.makePipe i (.ok (readEnd, writeEnd))) readEnd ∧
    events[j]? = some (.spawn launch (.ok process)) ∧ launch.index = i ∧
    OpenSince (events.take j) k (.makePipe i (.ok (readEnd, writeEnd))) writeEnd ∧
    launch.resolved.wiring.stdout = .pipe writeEnd ∧ launch.resolved.downstream = some readEnd

/-- What a stage is connected to when its process is created, after some events. -/
structure Wired (stages : List Stage) (before : List (Event α η)) (launch : Launch α) : Prop where
  stage : stages[launch.index]? = some launch.stage
  /-- Its input file is read, if it names one. -/
  input : ∀ path, launch.stage.input = some path →
    ∃ k fd, JustOpened before k (.openInput path (.ok fd)) fd ∧
      launch.resolved.wiring.stdin = .file fd
  /-- Else the first stage reads what the shell reads. -/
  first : launch.stage.input = none → launch.index = 0 → launch.resolved.wiring.stdin = .inherit
  /-- Else a later stage reads the pipe that the stage before it writes. -/
  later : launch.stage.input = none → ∀ i, launch.index = i + 1 →
    ∃ readEnd, HandedOver before i readEnd ∧ launch.resolved.wiring.stdin = .pipe readEnd
  /-- Every stage but the last writes a pipe of its own, whose read end is kept. -/
  piped : launch.index + 1 < stages.length →
    ∃ k readEnd writeEnd,
      JustOpened before k (.makePipe launch.index (.ok (readEnd, writeEnd))) readEnd ∧
      JustOpened before k (.makePipe launch.index (.ok (readEnd, writeEnd))) writeEnd ∧
      launch.resolved.wiring.stdout = .pipe writeEnd ∧ launch.resolved.downstream = some readEnd
  /-- The last stage writes where the shell does, or its own file. -/
  last : launch.index + 1 = stages.length →
    launch.resolved.downstream = none ∧
      (launch.stage.output = .inherit ∧ launch.resolved.wiring.stdout = .inherit ∨
        ∃ mode path k fd, launch.stage.output = .file mode path ∧
          JustOpened before k (.openOutput mode path (.ok fd)) fd ∧
          launch.resolved.wiring.stdout = .file fd)

/-- The process that is created at a position is given a descriptor, which stands for what an
earlier event opened. -/
structure Given (events : List (Event α η)) (j : Nat) (launch : Launch α) (k : Nat)
    (e : Event α η) (fd : Nat) : Prop where
  created : ∃ outcome, events[j]? = some (.spawn launch outcome)
  given : fd ∈ launch.resolved.wiring.descriptors
  since : OpenSince (events.take j) k e fd

/-! ## Descriptors and the events that opened them -/

/-- A descriptor is open since one event only. -/
theorem OpenSince.unique (h : OpenSince events k e fd) (h' : OpenSince events k' e' fd) :
    k = k' ∧ e = e' := by
  rcases Nat.lt_trichotomy k k' with hlt | rfl | hgt
  · exact absurd h'.opened (h.untouched k' e' hlt h'.here).1
  · exact ⟨rfl, Option.some.inj (h.here.symm.trans h'.here)⟩
  · exact absurd h.opened (h'.untouched k e hgt h.here).1

theorem OpenSince.append (h : OpenSince events k e fd)
    (hmore : ∀ e' ∈ more, fd ∉ e'.opened ∧ fd ∉ e'.closed) : OpenSince (events ++ more) k e fd where
  here := by
    have hlt := (List.getElem?_eq_some_iff.mp h.here).1
    rw [List.getElem?_append_left hlt, h.here]
  opened := h.opened
  untouched := by
    intro m e' hm he'
    by_cases hlt : m < events.length
    · rw [List.getElem?_append_left hlt] at he'
      exact h.untouched m e' hm he'
    · rw [List.getElem?_append_right (Nat.le_of_not_lt hlt)] at he'
      exact hmore e' (List.mem_of_getElem? he')

theorem openSince_cons (before : List (Event α η)) (hfd : fd ∈ e.opened)
    (hmore : ∀ e' ∈ more, fd ∉ e'.opened ∧ fd ∉ e'.closed) :
    OpenSince (before ++ e :: more) before.length e fd := by
  have hone : OpenSince (before ++ [e]) before.length e fd := by
    refine ⟨by simp, hfd, ?_⟩
    intro m e' hm he'
    have hlt := (List.getElem?_eq_some_iff.mp he').1
    exact absurd hlt (by simpa using Nat.succ_le_of_lt hm)
  simpa using hone.append hmore

theorem justOpened_cons (before : List (Event α η)) (hfd : fd ∈ e.opened)
    (hmore : ∀ e' ∈ more, fd ∉ e'.opened ∧ fd ∉ e'.closed)
    (hsetup : ∀ e' ∈ more, e'.isSetup = true) :
    JustOpened (before ++ e :: more) before.length e fd := by
  refine ⟨openSince_cons before hfd hmore, ?_⟩
  intro m e' hm he'
  rw [List.getElem?_append_right (Nat.le_of_lt hm)] at he'
  obtain ⟨n, hn⟩ : ∃ n, m - before.length = n + 1 := ⟨m - before.length - 1, by omega⟩
  rw [hn, List.getElem?_cons_succ] at he'
  exact hsetup e' (List.mem_of_getElem? he')

theorem HandedOver.append {i readEnd : Nat} (h : HandedOver events i readEnd)
    (hmore : ∀ e' ∈ more, readEnd ∉ e'.opened ∧ readEnd ∉ e'.closed) :
    HandedOver (events ++ more) i readEnd := by
  obtain ⟨k, writeEnd, j, launch, process, hread, hspawn, hindex, hwrite, hwiring⟩ := h
  have hlt := (List.getElem?_eq_some_iff.mp hspawn).1
  refine ⟨k, writeEnd, j, launch, process, hread.append hmore, ?_, hindex, ?_, hwiring⟩
  · rw [List.getElem?_append_left hlt, hspawn]
  · rwa [List.take_append_of_le_length (Nat.le_of_lt hlt)]

/-! ## What is noted while a stage is connected -/

/-- What is noted while the input of a stage is connected. -/
inductive InputNotes (stage : Stage) (incoming : Option Nat) :
    List (Event α η) → Connection → Prop
  | file {path : String} {fd : Nat} (names : stage.input = some path) :
      InputNotes stage incoming (incoming.toList.map .close ++ [.openInput path (.ok fd)])
        (.file fd)
  | pipe {fd : Nat} (names : stage.input = none) (carried : incoming = some fd) :
      InputNotes stage incoming [] (.pipe fd)
  | inherit (names : stage.input = none) (carried : incoming = none) :
      InputNotes stage incoming [] .inherit

/-- What is noted while the output of the stage at a position is connected. -/
inductive OutputNotes (index : Nat) (stage : Stage) :
    List (Event α η) → Connection → Option Nat → Prop
  | inherit (names : stage.output = .inherit) : OutputNotes index stage [] .inherit none
  | file {mode : WriteMode} {path : String} {fd : Nat} (names : stage.output = .file mode path) :
      OutputNotes index stage [.openOutput mode path (.ok fd)] (.file fd) none
  | pipe {readEnd writeEnd : Nat} (names : stage.output = .pipe) :
      OutputNotes index stage [.makePipe index (.ok (readEnd, writeEnd))] (.pipe writeEnd)
        (some readEnd)

section Connecting

variable {index : Nat} {stage : Stage} {incoming downstream : Option Nat}
  {stdin stdout : Connection} {notes : List (Event α η)}

theorem InputNotes.isSetup (h : InputNotes stage incoming notes stdin) :
    ∀ e ∈ notes, e.isSetup = true := by
  cases h with
  | file =>
      intro e he
      rcases List.mem_append.mp he with he | he
      · obtain ⟨fd, -, rfl⟩ := List.mem_map.mp he
        rfl
      · rw [List.mem_singleton.mp he]
        rfl
  | pipe => simp
  | inherit => simp

theorem OutputNotes.isSetup (h : OutputNotes index stage notes stdout downstream) :
    ∀ e ∈ notes, e.isSetup = true := by
  cases h <;> simp [Event.isSetup]

/-- Connecting the output opens what the stage writes and the read end, and closes nothing. -/
theorem OutputNotes.untouched (h : OutputNotes index stage notes stdout downstream) {fd : Nat}
    (hout : fd ∉ stdout.descriptor?.toList) (hdown : fd ∉ downstream.toList) :
    ∀ e ∈ notes, fd ∉ e.opened ∧ fd ∉ e.closed := by
  cases h <;> simp_all [Event.opened, Event.closed, Connection.descriptor?]

theorem InputNotes.justOpened {path : String} (h : InputNotes stage incoming notes stdin)
    (before : List (Event α η)) (hpath : stage.input = some path)
    (hmore : ∀ fd, stdin.descriptor? = some fd → ∀ e ∈ more, fd ∉ e.opened ∧ fd ∉ e.closed)
    (hsetup : ∀ e ∈ more, e.isSetup = true) :
    ∃ k fd, JustOpened (before ++ notes ++ more) k (.openInput path (.ok fd)) fd ∧
      stdin = .file fd := by
  cases h with
  | @file path' fd names =>
      obtain rfl : path' = path := Option.some.inj (names.symm.trans hpath)
      have hopen := justOpened_cons (e := .openInput path' (.ok fd))
        (before ++ incoming.toList.map .close) (by simp [Event.opened]) (hmore fd rfl) hsetup
      exact ⟨_, fd, by simpa using hopen, rfl⟩
  | pipe names _ => cases names.symm.trans hpath
  | inherit names _ => cases names.symm.trans hpath

/-- Without an input file nothing is opened or closed, and what was carried over is read. -/
theorem InputNotes.eq_nil (h : InputNotes stage incoming notes stdin)
    (hnone : stage.input = none) :
    notes = [] ∧ (incoming = none ∧ stdin = .inherit ∨
      ∃ fd, incoming = some fd ∧ stdin = .pipe fd) := by
  cases h with
  | file names => cases names.symm.trans hnone
  | @pipe fd _ carried => exact ⟨rfl, Or.inr ⟨fd, carried, rfl⟩⟩
  | inherit _ carried => exact ⟨rfl, Or.inl ⟨carried, rfl⟩⟩

/-- A pipe is opened for the output of a stage and for the input of the next by the same event. -/
theorem OutputNotes.piped (h : OutputNotes index stage notes stdout downstream)
    (before : List (Event α η)) (hpipe : stage.output = .pipe) :
    ∃ k readEnd writeEnd,
      JustOpened (before ++ notes) k (.makePipe index (.ok (readEnd, writeEnd))) readEnd ∧
      JustOpened (before ++ notes) k (.makePipe index (.ok (readEnd, writeEnd))) writeEnd ∧
      stdout = .pipe writeEnd ∧ downstream = some readEnd := by
  cases h with
  | inherit names => cases names.symm.trans hpipe
  | file names => cases names.symm.trans hpipe
  | @pipe readEnd writeEnd _ =>
      exact ⟨_, readEnd, writeEnd, justOpened_cons _ (by simp [Event.opened]) (by simp) (by simp),
        justOpened_cons _ (by simp [Event.opened]) (by simp) (by simp), rfl, rfl⟩

theorem OutputNotes.last (h : OutputNotes index stage notes stdout downstream)
    (before : List (Event α η)) (hpipe : stage.output ≠ .pipe) :
    downstream = none ∧
      (stage.output = .inherit ∧ stdout = .inherit ∨
        ∃ mode path k fd, stage.output = .file mode path ∧
          JustOpened (before ++ notes) k (.openOutput mode path (.ok fd)) fd ∧
          stdout = .file fd) := by
  cases h with
  | inherit names => exact ⟨rfl, Or.inl ⟨names, rfl⟩⟩
  | @file mode path fd names =>
      exact ⟨rfl, Or.inr ⟨mode, path, _, fd, names,
        justOpened_cons _ (by simp [Event.opened]) (by simp) (by simp), rfl⟩⟩
  | pipe names => exact absurd names hpipe

variable {σ : Type} [Host σ α η] {s t : Shell σ α η}

theorem Shell.inputNotes (h : s.resolveInput stage incoming = (.ok stdin, t)) :
    ∃ notes, t.events = s.events ++ notes ∧ InputNotes stage incoming notes stdin := by
  rcases Shell.resolveInput_eq_ok h with
    ⟨path, fd, hpath, ho, rfl⟩ | ⟨fd, hnone, hcarried, rfl, rfl⟩ | ⟨hnone, hcarried, rfl, rfl⟩
  · obtain ⟨a, host, -, -, rfl⟩ := Shell.openInput_eq_ok ho
    exact ⟨_, by simp, .file hpath⟩
  · exact ⟨[], by simp, .pipe hnone hcarried⟩
  · exact ⟨[], by simp, .inherit hnone hcarried⟩

theorem Shell.outputNotes (h : s.resolveOutput index stage = (.ok (stdout, downstream), t)) :
    ∃ notes, t.events = s.events ++ notes ∧ OutputNotes index stage notes stdout downstream := by
  rcases Shell.resolveOutput_eq_ok h with
    ⟨hout, rfl, rfl, rfl⟩ | ⟨mode, path, fd, hout, ho, rfl, rfl⟩ |
      ⟨readEnd, writeEnd, hout, hp, rfl, rfl⟩
  · exact ⟨[], by simp, .inherit hout⟩
  · obtain ⟨a, host, -, -, rfl⟩ := Shell.openOutput_eq_ok ho
    exact ⟨_, rfl, .file hout⟩
  · obtain ⟨r, w, made, host, host', -, -, -, -, -, rfl⟩ := Shell.makePipe_eq_ok hp
    exact ⟨_, rfl, .pipe hout⟩

end Connecting

/-! ## Starting a stage -/

def Settled (events : List (Event α η)) : Prop :=
  ∀ (j : Nat) (launch : Launch α) (outcome : Except Fault η),
    events[j]? = some (.spawn launch outcome) →
      ∀ fd ∈ launch.resolved.wiring.descriptors, .close fd ∈ events.drop (j + 1)

/-- When a process is created, its stage is wired and nothing is open that another one was given. -/
def Placed (stages : List Stage) (before : List (Event α η)) : Event α η → Prop
  | .spawn launch _ => Wired stages before launch ∧ Settled before
  | _ => True

structure PlacedSoFar (stages : List Stage) (events : List (Event α η)) : Prop where
  placed : Along (Placed stages) events
  settled : Settled events

/-- Between two stages the read end of the pipe of the one before is carried over. -/
def Carried (stages : List Stage) (events : List (Event α η)) : Nat → Option Nat → Prop
  | 0, incoming => incoming = none
  | i + 1, incoming =>
    i + 1 < stages.length → ∃ readEnd, incoming = some readEnd ∧ HandedOver events i readEnd

section Starting

variable {stages : List Stage} {launch : Launch α} {notes inNotes outNotes : List (Event α η)}
  {incoming : Option Nat}

theorem Settled.append (h : Settled events) (h' : Settled more) : Settled (events ++ more) := by
  intro j launch outcome hj fd hfd
  rw [List.drop_append]
  by_cases hlt : j < events.length
  · rw [List.getElem?_append_left hlt] at hj
    exact List.mem_append_left _ (h j launch outcome hj fd hfd)
  · have hle := Nat.le_of_not_lt hlt
    rw [List.getElem?_append_right hle] at hj
    rw [Nat.sub_add_comm hle]
    exact List.mem_append_right _ (h' _ launch outcome hj fd hfd)

theorem PlacedSoFar.nil : PlacedSoFar stages ([] : List (Event α η)) where
  placed := fun j e he => by simp at he
  settled := fun j launch outcome hj => by simp at hj

/-- Events that create no process change nothing. -/
theorem PlacedSoFar.append (h : PlacedSoFar stages events)
    (hmore : ∀ e ∈ more, ∀ launch outcome, e ≠ .spawn launch outcome) :
    PlacedSoFar stages (events ++ more) where
  placed := by
    refine along_append h.placed ?_
    intro j e he
    cases e with
    | spawn launch outcome =>
        exact absurd rfl (hmore _ (List.mem_of_getElem? he) launch outcome)
    | _ => trivial
  settled := by
    refine h.settled.append ?_
    intro j launch outcome hj
    exact absurd rfl (hmore _ (List.mem_of_getElem? hj) launch outcome)

theorem PlacedSoFar.setUp (h : PlacedSoFar stages events)
    (hmore : ∀ e ∈ more, e.isSetup = true) : PlacedSoFar stages (events ++ more) := by
  refine h.append ?_
  rintro e he launch outcome rfl
  cases hmore _ he

/-- A process that is wired finds nothing open that another one was given. -/
theorem PlacedSoFar.spawn (h : PlacedSoFar stages events) (hwired : Wired stages events launch)
    (outcome : Except Fault η) :
    PlacedSoFar stages
      (events ++ .spawn launch outcome :: launch.resolved.wiring.descriptors.map .close) := by
  have hcloses : ∀ (j : Nat) (e : Event α η),
      (launch.resolved.wiring.descriptors.map .close)[j]? = some e → ∃ fd, e = .close fd := by
    intro j e he
    obtain ⟨fd, -, rfl⟩ := List.mem_map.mp (List.mem_of_getElem? he)
    exact ⟨fd, rfl⟩
  refine ⟨along_append h.placed ?_, h.settled.append ?_⟩
  · intro j e he
    cases j with
    | zero =>
        cases he
        rw [List.take_zero, List.append_nil]
        exact ⟨hwired, h.settled⟩
    | succ j =>
        obtain ⟨fd, rfl⟩ := hcloses j e he
        trivial
  · intro j launch' outcome' hj fd hfd
    cases j with
    | zero =>
        cases hj
        exact List.mem_map_of_mem hfd
    | succ j =>
        obtain ⟨fd', hfd'⟩ := hcloses j _ hj
        cases hfd'

/-- A stage that could be connected is wired. -/
theorem wired_of_notes (hwell : WellWired stages)
    (hstage : stages[launch.index]? = some launch.stage)
    (hnodup : launch.resolved.descriptors.Nodup)
    (hcarried : Carried stages notes launch.index incoming)
    (hin : InputNotes launch.stage incoming inNotes launch.resolved.wiring.stdin)
    (hout : OutputNotes launch.index launch.stage outNotes launch.resolved.wiring.stdout
      launch.resolved.downstream) :
    Wired stages (notes ++ inNotes ++ outNotes) launch := by
  -- what the stage reads stays open while its output is connected
  have huntouched : ∀ fd, launch.resolved.wiring.stdin.descriptor? = some fd →
      ∀ e ∈ outNotes, fd ∉ e.opened ∧ fd ∉ e.closed := by
    intro fd hfd
    rw [Resolved.descriptors, Wiring.descriptors, List.append_assoc] at hnodup
    have hdisjoint := (List.nodup_append'.mp hnodup).2.2
    have hmem : fd ∈ launch.resolved.wiring.stdin.descriptor?.toList := by simp [hfd]
    exact hout.untouched (fun h => hdisjoint hmem (List.mem_append_left _ h))
      (fun h => hdisjoint hmem (List.mem_append_right _ h))
  refine ⟨hstage, ?_, ?_, ?_, ?_, ?_⟩
  · intro path hpath
    exact hin.justOpened notes hpath huntouched hout.isSetup
  · intro hnone hindex
    rw [hindex] at hcarried
    obtain ⟨-, ⟨-, hstdin⟩ | ⟨fd, hincoming, -⟩⟩ := hin.eq_nil hnone
    · exact hstdin
    · cases hcarried.symm.trans hincoming
  · intro hnone i hindex
    rw [hindex] at hcarried hstage
    obtain ⟨readEnd, hincoming, hhanded⟩ := hcarried (List.getElem?_eq_some_iff.mp hstage).1
    obtain ⟨rfl, ⟨hnothing, -⟩ | ⟨fd, hsome, hstdin⟩⟩ := hin.eq_nil hnone
    · cases hincoming.symm.trans hnothing
    · obtain rfl : readEnd = fd := Option.some.inj (hincoming.symm.trans hsome)
      refine ⟨readEnd, ?_, hstdin⟩
      rw [List.append_nil]
      exact hhanded.append (huntouched readEnd (by rw [hstdin]; rfl))
  · intro hlt
    exact hout.piped _ (hwell.output_eq_pipe hstage hlt)
  · intro hlast
    exact hout.last _ (hwell.output_ne_pipe hstage hlast)

/-- The read end that is kept of a stage that was started is carried over to the next one. -/
theorem carried_of_wired (hwired : Wired stages events launch)
    (hnodup : launch.resolved.descriptors.Nodup) (process : η) :
    Carried stages
      (events ++ .spawn launch (.ok process) :: launch.resolved.wiring.descriptors.map .close)
      (launch.index + 1) launch.resolved.downstream := by
  intro hlt
  obtain ⟨k, readEnd, writeEnd, hread, hwrite, hstdout, hdownstream⟩ := hwired.piped hlt
  have hkept : readEnd ∉ launch.resolved.wiring.descriptors := by
    intro hmem
    have hdisjoint := (List.nodup_append'.mp hnodup).2.2
    exact hdisjoint hmem (by simp [hdownstream])
  refine ⟨readEnd, hdownstream, k, writeEnd, events.length, launch, process, ?_, by simp, rfl,
    by simpa using hwrite.toOpenSince, hstdout, hdownstream⟩
  refine hread.toOpenSince.append ?_
  intro e he
  rcases List.mem_cons.mp he with rfl | he
  · simp [Event.opened, Event.closed]
  · obtain ⟨fd, hfd, rfl⟩ := List.mem_map.mp he
    have hne : readEnd ≠ fd := fun heq => hkept (heq ▸ hfd)
    simp [Event.opened, Event.closed, hne]

/-- What a process is given is a file of its stage, the read end of the pipe of the stage before, or
the write end of the pipe of its stage. -/
theorem Wired.exists_openSince (h : Wired stages events launch)
    (hfd : fd ∈ launch.resolved.wiring.descriptors) :
    ∃ k e, OpenSince events k e fd ∧
      ((∃ path, e = .openInput path (.ok fd)) ∨ (∃ mode path, e = .openOutput mode path (.ok fd)) ∨
        (∃ i writeEnd, e = .makePipe i (.ok (fd, writeEnd)) ∧ launch.index = i + 1 ∧
          launch.resolved.wiring.stdin = .pipe fd) ∨
        ∃ readEnd, e = .makePipe launch.index (.ok (readEnd, fd)) ∧
          launch.resolved.wiring.stdout = .pipe fd) := by
  rcases List.mem_append.mp hfd with hin | hout
  · rcases hinput : launch.stage.input with _ | path
    · rcases hindex : launch.index with _ | i
      · simp [h.first hinput hindex, Connection.descriptor?] at hin
      · obtain ⟨readEnd, ⟨k, writeEnd, -, -, -, hopen, -⟩, hstdin⟩ := h.later hinput i hindex
        obtain rfl : fd = readEnd := by simpa [hstdin, Connection.descriptor?] using hin
        exact ⟨k, _, hopen, Or.inr (Or.inr (Or.inl ⟨i, writeEnd, rfl, rfl, hstdin⟩))⟩
    · obtain ⟨k, fd', hopen, hstdin⟩ := h.input path hinput
      obtain rfl : fd = fd' := by simpa [hstdin, Connection.descriptor?] using hin
      exact ⟨k, _, hopen.toOpenSince, Or.inl ⟨path, rfl⟩⟩
  · have hlt := (List.getElem?_eq_some_iff.mp h.stage).1
    rcases Nat.lt_or_eq_of_le (Nat.succ_le_of_lt hlt) with hbefore | hlast
    · obtain ⟨k, readEnd, writeEnd, -, hopen, hstdout, -⟩ := h.piped hbefore
      obtain rfl : fd = writeEnd := by simpa [hstdout, Connection.descriptor?] using hout
      exact ⟨k, _, hopen.toOpenSince, Or.inr (Or.inr (Or.inr ⟨readEnd, rfl, hstdout⟩))⟩
    · obtain ⟨-, ⟨-, hstdout⟩ | ⟨mode, path, k, fd', -, hopen, hstdout⟩⟩ := h.last hlast
      · simp [hstdout, Connection.descriptor?] at hout
      · obtain rfl : fd = fd' := by simpa [hstdout, Connection.descriptor?] using hout
        exact ⟨k, _, hopen.toOpenSince, Or.inr (Or.inl ⟨mode, path, rfl⟩)⟩

/-- What was given to a process before cannot be given to another one later. -/
theorem PlacedSoFar.not_given_again (h : PlacedSoFar stages events) {j j' : Nat}
    {launch' : Launch α} (hgiven : Given events j launch k e fd)
    (hgiven' : Given events j' launch' k e fd) : ¬ j < j' := by
  intro hlt
  obtain ⟨outcome, hj⟩ := hgiven.created
  obtain ⟨outcome', hj'⟩ := hgiven'.created
  have hsettled : Settled (events.take j') := (h.placed j' _ hj').2
  have hbefore : (events.take j')[j]? = some (.spawn launch outcome) := by
    rw [List.getElem?_take_of_lt hlt, hj]
  -- the descriptor was closed after the first process was created
  obtain ⟨n, hn⟩ := List.getElem?_of_mem (hsettled j launch outcome hbefore fd hgiven.given)
  rw [List.getElem?_drop] at hn
  have hk : k < j := by
    have hlength := (List.getElem?_eq_some_iff.mp hgiven.since.here).1
    exact Nat.lt_of_lt_of_le hlength (List.length_take_le j events)
  exact (hgiven'.since.untouched _ _ (by omega) hn).2 (by simp [Event.closed])

end Starting

namespace Shell

variable {σ : Type} [Host σ α η] {s t u : Shell σ α η} {stages : List Stage} {stage : Stage}
  {incoming : Option Nat} {r : Resolved} {notes : List (Event α η)}

/-- A stage that could be connected is wired when the attempt to create its process is made. -/
theorem wired_of_resolve {index : Nat} (hwell : WellWired stages)
    (hstage : stages[index]? = some stage) (hevents : t.events = s.events ++ notes)
    (haccounts : Accounts s incoming.toList t) (hcarried : Carried stages notes index incoming)
    (hr : t.resolve index stage incoming = (.ok r, u)) :
    ∃ setup, u.events = s.events ++ (notes ++ setup) ∧ (∀ e ∈ setup, e.isSetup = true) ∧
      r.descriptors.Nodup ∧ Wired stages (notes ++ setup) ⟨index, stage, r, u.descriptors⟩ := by
  have hnodup : r.descriptors.Nodup := by
    have hresolve := haccounts.resolve index stage
    rw [hr] at hresolve
    exact hresolve.nodup
  obtain ⟨v, hri, hro⟩ := resolve_eq_ok hr
  obtain ⟨inNotes, hv, hin⟩ := inputNotes hri
  obtain ⟨outNotes, hu, hout⟩ := outputNotes hro
  have hsetup : ∀ e ∈ inNotes ++ outNotes, e.isSetup = true := by
    intro e he
    rcases List.mem_append.mp he with he | he
    · exact hin.isSetup e he
    · exact hout.isSetup e he
  refine ⟨inNotes ++ outNotes, by simp [hu, hv, hevents], hsetup, hnodup, ?_⟩
  rw [← List.append_assoc]
  exact wired_of_notes hwell hstage hnodup hcarried hin hout

/-- An attempt to create the process of a stage that could be connected, whatever comes of it. -/
theorem placedSoFar_spawn {index : Nat} {outcome : Except Fault η} (hwell : WellWired stages)
    (hstage : stages[index]? = some stage) (hevents : t.events = s.events ++ notes)
    (haccounts : Accounts s incoming.toList t) (hplaced : PlacedSoFar stages notes)
    (hcarried : Carried stages notes index incoming)
    (hr : t.resolve index stage incoming = (.ok r, u)) {v : Shell σ α η}
    (hs : u.spawn index stage r = (outcome, v)) :
    ∃ more, v.events = s.events ++ more ∧ PlacedSoFar stages more ∧
      ∀ process, outcome = .ok process → Carried stages more (index + 1) r.downstream := by
  obtain ⟨setup, hu, hsetup, hnodup, hwired⟩ :=
    wired_of_resolve hwell hstage hevents haccounts hcarried hr
  have hv := events_spawn u index stage r
  simp only [hs, hu, List.append_assoc] at hv
  rw [← List.append_assoc notes] at hv
  refine ⟨_, hv, (hplaced.setUp hsetup).spawn hwired outcome, ?_⟩
  rintro process rfl
  exact carried_of_wired hwired hnodup process

theorem Started.placedSoFar {processes : List η} (h : Started s stages processes incoming t)
    (hwell : WellWired stages) :
    ∃ notes, t.events = s.events ++ notes ∧ PlacedSoFar stages notes ∧
      Carried stages notes processes.length incoming := by
  induction h with
  | nil => exact ⟨[], by simp, .nil, rfl⟩
  | concat before next launch ih =>
      obtain ⟨notes, hevents, hplaced, hcarried⟩ := ih
      obtain ⟨r, u, hr, hs, rfl⟩ := launch_eq_ok launch
      obtain ⟨more, ht, hmore, hkept⟩ :=
        placedSoFar_spawn hwell next hevents (.of_started before) hplaced hcarried hr hs
      exact ⟨more, ht, hmore, by simpa using hkept _ rfl⟩

theorem LaunchEnds.placedSoFar {processes : List η} {leftover : Option Nat} {fault : Option Fault}
    (h : LaunchEnds s stages processes leftover fault t) (hwell : WellWired stages) :
    ∃ notes, t.events = s.events ++ notes ∧ PlacedSoFar stages notes := by
  cases h with
  | all started _ =>
      obtain ⟨notes, hevents, hplaced, -⟩ := started.placedSoFar hwell
      exact ⟨notes, hevents, hplaced⟩
  | @fault incoming u t' stage f started next launch =>
      obtain ⟨notes, hevents, hplaced, hcarried⟩ := started.placedSoFar hwell
      obtain ⟨more, ht', hmore⟩ : ∃ more, t'.events = s.events ++ more ∧
          PlacedSoFar stages more := by
        rcases launch_eq_error launch with hr | ⟨r, v, w, hr, hs, rfl⟩
        · obtain ⟨setup, ht', hsetup⟩ := setsUp_resolve u processes.length stage incoming
          simp only [hr, hevents, List.append_assoc] at ht'
          exact ⟨_, ht', hplaced.setUp hsetup⟩
        · obtain ⟨more, hw, hmore, -⟩ :=
            placedSoFar_spawn hwell next hevents (.of_started started) hplaced hcarried hr hs
          refine ⟨more ++ r.downstream.toList.map .close, by simp [hw], hmore.setUp ?_⟩
          simp [Event.isSetup]
      refine ⟨_, by rw [events_warn, ht', List.append_assoc], hmore.append ?_⟩
      simp

/-- All processes of a run are placed where they should be. -/
theorem placedSoFar_trace (s : Shell σ α η) (p : Pipeline) :
    PlacedSoFar p.stages (s.trace p) := by
  obtain ⟨processes, leftover, fault, t, outcomes, hends, -, -, hrun, -⟩ := run_phases s p
  obtain ⟨notes, ht, hplaced⟩ := hends.placedSoFar p.wellWired
  rw [ht, List.append_assoc, List.append_assoc] at hrun
  rw [trace_eq_of_events hrun]
  refine hplaced.append ?_
  intro e he launch outcome heq
  subst heq
  rcases List.mem_append.mp he with he | he
  · simp at he
  · rcases mem_reapTrace he with ⟨index, process, outcome, h⟩ | ⟨w, h⟩ <;> cases h

/-- Every stage for which a process is created, or refused, is wired as the pipeline says, in a run
of which every event is what the system answered. What is given to a process comes from an event of
the run, a pipe is only given to the stage that it was made for, to write, and to the next one, to
read, and nothing is given to two processes. -/
theorem run_wiring (s : Shell σ α η) (p : Pipeline) :
    s.Follows (s.trace p) (s.run p).2 ∧
    (∀ (j : Nat) (launch : Launch α) (outcome : Except Fault η),
      (s.trace p)[j]? = some (.spawn launch outcome) →
        Wired p.stages ((s.trace p).take j) launch ∧
        ∀ fd ∈ launch.resolved.wiring.descriptors, ∃ k e, Given (s.trace p) j launch k e fd) ∧
    (∀ (j k i readEnd writeEnd fd : Nat) (launch : Launch α),
      Given (s.trace p) j launch k (.makePipe i (.ok (readEnd, writeEnd))) fd →
        fd = writeEnd ∧ launch.index = i ∧ launch.resolved.wiring.stdout = .pipe fd ∨
        fd = readEnd ∧ launch.index = i + 1 ∧ launch.resolved.wiring.stdin = .pipe fd) ∧
    ∀ (j j' k fd : Nat) (e : Event α η) (launch launch' : Launch α),
      Given (s.trace p) j launch k e fd → Given (s.trace p) j' launch' k e fd → j = j' := by
  have h := placedSoFar_trace s p
  refine ⟨follows_trace s p, ?_, ?_, ?_⟩
  · intro j launch outcome hj
    have hwired : Wired p.stages ((s.trace p).take j) launch := (h.placed j _ hj).1
    refine ⟨hwired, fun fd hfd => ?_⟩
    obtain ⟨k, e, hopen, -⟩ := hwired.exists_openSince hfd
    exact ⟨k, e, ⟨outcome, hj⟩, hfd, hopen⟩
  · intro j k i readEnd writeEnd fd launch hgiven
    obtain ⟨outcome, hj⟩ := hgiven.created
    have hwired : Wired p.stages ((s.trace p).take j) launch := (h.placed j _ hj).1
    obtain ⟨k', e, hopen, hsource⟩ := hwired.exists_openSince hgiven.given
    obtain ⟨-, rfl⟩ := hgiven.since.unique hopen
    rcases hsource with ⟨path, h⟩ | ⟨mode, path, h⟩ | ⟨i', w, h, hindex, hstdin⟩ | ⟨r, h, hstdout⟩
    · cases h
    · cases h
    · cases h
      exact Or.inr ⟨rfl, hindex, hstdin⟩
    · cases h
      exact Or.inl ⟨rfl, rfl, hstdout⟩
  · intro j j' k fd e launch launch' hgiven hgiven'
    rcases Nat.lt_trichotomy j j' with hlt | heq | hgt
    · exact absurd hlt (h.not_given_again hgiven hgiven')
    · exact heq
    · exact absurd hgt (h.not_given_again hgiven' hgiven)

end Shell

end ShellPipeline
