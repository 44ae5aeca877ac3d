import ShellPipeline.Machine.Shell
import ShellPipeline.Proofs.Run.Sandbox
import ShellPipeline.Proofs.Run.Steps
import ShellPipeline.Proofs.Run.Wiring

/-!
# Descriptors of a stage that is connected

Connecting a stage opens what the stage is given and closes a pipe that an input file takes the
place of. When it fails, at whatever request, nothing that it opened is left, and neither is the
pipe that was carried over.

Numbers of descriptors come back: a file may be opened under the number of the pipe that was closed
for it. So a stage that names an input file is connected as if the pipe had been closed before, and
the accounts are kept from there.
-/

namespace ShellPipeline

def Connection.file? : Connection → Option Nat
  | .file fd => some fd
  | _ => none

/-- What was opened for a connected stage. A pipe that it reads was there before. -/
def Resolved.acquired (r : Resolved) : List Nat :=
  r.wiring.stdin.file?.toList ++ (r.wiring.stdout.descriptor?.toList ++ r.downstream.toList)

theorem InputNotes.opened {α η : Type} {stage : Stage} {incoming : Option Nat}
    {notes : List (Event α η)} {stdin : Connection} (h : InputNotes stage incoming notes stdin) :
    notes.flatMap Event.opened = stdin.file?.toList := by
  cases h with
  | @file path fd _ =>
      have hclosed : (incoming.toList.map .close : List (Event α η)).flatMap Event.opened = [] := by
        cases incoming <;> rfl
      rw [List.flatMap_append, hclosed]
      rfl
  | pipe => rfl
  | inherit => rfl

theorem OutputNotes.opened {α η : Type} {index : Nat} {stage : Stage} {notes : List (Event α η)}
    {stdout : Connection} {downstream : Option Nat}
    (h : OutputNotes index stage notes stdout downstream) :
    (notes.flatMap Event.opened).Perm (stdout.descriptor?.toList ++ downstream.toList) := by
  cases h with
  | inherit => exact .nil
  | file => exact .refl _
  | pipe => exact .swap _ _ _

namespace Shell

variable {σ α η : Type} {s t : Shell σ α η} {index fd : Nat} {stage : Stage}
  {incoming : Option Nat} {r : Resolved} {f : Fault} {path : String}

/-- The descriptor is open, and it is no pipe that an input file takes the place of. -/
def Keeps (s : Shell σ α η) (stage : Stage) (incoming : Option Nat) (fd : Nat) : Prop :=
  s.descriptors.isOpen fd = true ∧ ¬ (stage.input.isSome = true ∧ incoming = some fd)

/-- A stage was connected, and `notes` says how. -/
structure Connected (s : Shell σ α η) (index : Nat) (stage : Stage) (incoming : Option Nat)
    (notes : List (Event α η)) (r : Resolved) (t : Shell σ α η) : Prop where
  distinct : r.descriptors.Nodup
  isOpen_iff : ∀ fd, t.descriptors.isOpen fd = true ↔
    s.Keeps stage incoming fd ∨ fd ∈ r.acquired
  kept : ∀ fd, s.Keeps stage incoming fd →
    fd ∉ r.acquired ∧ t.descriptors.get? fd = s.descriptors.get? fd
  noted : ∃ inputNotes outputNotes, notes = inputNotes ++ outputNotes ∧
    InputNotes stage incoming inputNotes r.wiring.stdin ∧
    OutputNotes index stage outputNotes r.wiring.stdout r.downstream
  acquired : (notes.flatMap Event.opened).Perm r.acquired
  /-- The pipe that was carried over stays open exactly if the stage reads it. -/
  carried : ∀ fd, incoming = some fd →
    (.close fd ∉ notes ↔ r.wiring.stdin = .pipe fd) ∧
    (r.wiring.stdin = .pipe fd ↔ stage.input = none)

/-- A stage could not be connected: open is what was open before, without the pipe that was carried
over. -/
structure GivenUp (s : Shell σ α η) (index : Nat) (stage : Stage) (incoming : Option Nat)
    (f : Fault) (t : Shell σ α η) : Prop where
  fault : (∃ path e, stage.input = some path ∧ f = .openInput path e) ∨
    (∃ mode path e, stage.output = .file mode path ∧ f = .openOutput path e) ∨
      ∃ e, stage.output = .pipe ∧ f = .pipe index e
  table : ∀ fd, t.descriptors.get? fd =
    if incoming = some fd then none else s.descriptors.get? fd

variable [Host σ α η]

def closeUnread (s : Shell σ α η) (stage : Stage) (incoming : Option Nat) : Shell σ α η :=
  if stage.input.isSome then s.closeAll incoming.toList else s

theorem resolve_of_input (hpath : stage.input = some path) :
    s.resolve index stage incoming = (s.closeAll incoming.toList).resolve index stage none := by
  have hsame : s.resolveInput stage incoming =
      (s.closeAll incoming.toList).resolveInput stage none := by
    simp only [resolveInput, hpath]
    rfl
  simp only [resolve, hsame]

theorem resolveInput_of_no_input (hnone : stage.input = none) :
    s.resolveInput stage incoming = (.ok (incoming.elim .inherit .pipe), s) := by
  cases incoming <;> simp [resolveInput, hnone]

theorem get?_closeUnread (s : Shell σ α η) (stage : Stage) (incoming : Option Nat) (fd : Nat) :
    (s.closeUnread stage incoming).descriptors.get? fd =
      if stage.input.isSome = true ∧ incoming = some fd then none
      else s.descriptors.get? fd := by
  unfold closeUnread
  by_cases hinput : stage.input.isSome = true
  · simp only [hinput, if_true, get?_closeAll_eq, Option.mem_toList, true_and]
  · simp [hinput]

theorem isOpen_closeUnread_iff : (s.closeUnread stage incoming).descriptors.isOpen fd = true ↔
    s.Keeps stage incoming fd := by
  unfold Keeps Descriptors.isOpen
  rw [get?_closeUnread]
  split_ifs with h <;> simp [h]

/-! ## Accounts of what is acquired -/

/-- A connected stage has the pipe that was carried over, unless it reads a file, and what was
opened for it. -/
theorem descriptors_of_resolve_ok (h : s.resolve index stage incoming = (.ok r, t)) :
    r.descriptors = (if stage.input.isSome then [] else incoming.toList) ++ r.acquired := by
  rw [Resolved.descriptors, Wiring.descriptors, Resolved.acquired, List.append_assoc]
  obtain ⟨u, hin, -⟩ := resolve_eq_ok h
  obtain ⟨path, fd, hpath, -, hstdin⟩ | ⟨fd, hnone, rfl, -, hstdin⟩ | ⟨hnone, rfl, -, hstdin⟩ :=
    resolveInput_eq_ok hin
  · rw [hpath, hstdin]
    rfl
  · rw [hnone, hstdin]
    rfl
  · rw [hnone, hstdin]
    rfl

theorem accounts_of_closed (s : Shell σ α η) (index : Nat) (stage : Stage) :
    Accounts s (yields Resolved.descriptors (s.resolve index stage none).1)
      (s.resolve index stage none).2 :=
  Accounts.resolve (Accounts.refl s) index stage

/-- A stage that was connected has added what was opened for it to the table, and nothing else. -/
theorem accounts_of_resolve_ok (h : s.resolve index stage incoming = (.ok r, t)) :
    Accounts (s.closeUnread stage incoming) r.acquired t := by
  cases hinput : stage.input with
  | some path =>
      have hacquired : r.descriptors = r.acquired := by
        simpa [hinput] using descriptors_of_resolve_ok h
      rw [resolve_of_input hinput] at h
      have haccounts := accounts_of_closed (s.closeAll incoming.toList) index stage
      rw [h] at haccounts
      simpa [closeUnread, hinput, yields, hacquired] using haccounts
  | none =>
      obtain ⟨u, hin, hout⟩ := resolve_eq_ok h
      obtain ⟨hstdin, rfl⟩ := Prod.mk.inj ((resolveInput_of_no_input hinput).symm.trans hin)
      have haccounts := (Accounts.refl s).resolveOutput index stage
      rw [hout] at haccounts
      have hacquired : r.acquired = r.wiring.stdout.descriptor?.toList ++ r.downstream.toList := by
        rw [Resolved.acquired, ← Except.ok.inj hstdin]
        cases incoming <;> rfl
      simpa [closeUnread, hinput, hacquired, yields] using haccounts

/-- A stage that was not connected has added nothing to the table. -/
theorem accounts_of_resolve_error (h : s.resolve index stage incoming = (.error f, t)) :
    ∃ u, Accounts (s.closeUnread stage incoming) [] u ∧
      t = u.closeAll (if stage.input.isSome then [] else incoming.toList) := by
  cases hinput : stage.input with
  | some path =>
      rw [resolve_of_input hinput] at h
      have haccounts := accounts_of_closed (s.closeAll incoming.toList) index stage
      rw [h] at haccounts
      exact ⟨t, by simpa [closeUnread, hinput, yields] using haccounts, rfl⟩
  | none =>
      have hin : s.resolveInput stage incoming = (.ok (incoming.elim .inherit .pipe), s) :=
        resolveInput_of_no_input hinput
      rcases resolve_eq_error h with herror | ⟨c, u, v, hok, hout, rfl⟩
      · cases hin.symm.trans herror
      · cases hin.symm.trans hok
        have haccounts := (Accounts.refl s).resolveOutput index stage
        rw [hout] at haccounts
        refine ⟨v, by simpa [closeUnread, hinput, yields] using haccounts, ?_⟩
        cases incoming <;> rfl

theorem connected_of_resolve_ok
    (hopen : ∀ fd, incoming = some fd → s.descriptors.isOpen fd = true)
    (h : s.resolve index stage incoming = (.ok r, t)) :
    ∃ notes, t.events = s.events ++ notes ∧ Connected s index stage incoming notes r t := by
  have haccounts := accounts_of_resolve_ok h
  have hfresh : ∀ fd, s.Keeps stage incoming fd → fd ∉ r.acquired := by
    intro fd hkeeps hfd
    have hbase := isOpen_closeUnread_iff.mpr hkeeps
    rw [Descriptors.isOpen, haccounts.fresh fd hfd] at hbase
    cases hbase
  obtain ⟨u, hin, hout⟩ := resolve_eq_ok h
  obtain ⟨inputNotes, hu, hinputNotes⟩ := inputNotes hin
  obtain ⟨outputNotes, ht, houtputNotes⟩ := outputNotes hout
  refine ⟨inputNotes ++ outputNotes, by rw [ht, hu, List.append_assoc],
    ?distinct, ?isOpen, ?kept, ⟨inputNotes, outputNotes, rfl, hinputNotes, houtputNotes⟩,
    ?acquired, ?carried⟩
  case distinct =>
    rw [descriptors_of_resolve_ok h]
    refine List.nodup_append'.mpr ⟨?_, haccounts.nodup, ?_⟩
    · split_ifs
      · exact List.nodup_nil
      · cases incoming <;> simp
    · intro fd hfd
      split_ifs at hfd with hinput
      · cases hfd
      · exact hfresh fd ⟨hopen fd (by simpa using hfd), fun hboth => hinput hboth.1⟩
  case isOpen =>
    intro fd
    rw [haccounts.isOpen_iff, isOpen_closeUnread_iff]
  case kept =>
    intro fd hkeeps
    refine ⟨hfresh fd hkeeps, ?_⟩
    rw [haccounts.kept fd (hfresh fd hkeeps), get?_closeUnread, if_neg hkeeps.2]
  case acquired =>
    rw [List.flatMap_append, hinputNotes.opened]
    exact houtputNotes.opened.append_left _
  case carried =>
    rintro fd rfl
    obtain ⟨⟨stdin, stdout⟩, downstream⟩ := r
    dsimp only at hinputNotes houtputNotes
    cases hinputNotes <;> cases houtputNotes <;> simp_all

theorem givenUp_of_resolve_error (h : s.resolve index stage incoming = (.error f, t)) :
    GivenUp s index stage incoming f t where
  fault := by
    rcases resolve_eq_error h with hin | ⟨c, u, v, -, hout, -⟩
    · obtain ⟨path, e, hpath, -, hf⟩ := resolveInput_eq_error hin
      exact Or.inl ⟨path, e, hpath, hf⟩
    · obtain ⟨mode, path, e, houtput, -, hf⟩ | ⟨e, houtput, -, hf⟩ := resolveOutput_eq_error hout
      · exact Or.inr (Or.inl ⟨mode, path, e, houtput, hf⟩)
      · exact Or.inr (Or.inr ⟨e, houtput, hf⟩)
  table := by
    intro fd
    obtain ⟨u, hu, rfl⟩ := accounts_of_resolve_error h
    rw [get?_closeAll_eq, hu.kept fd List.not_mem_nil, get?_closeUnread]
    -- the pipe was closed before the file was opened, or at the end
    by_cases hinput : stage.input.isSome = true <;> by_cases hfd : incoming = some fd <;>
      simp [hinput, hfd]

/-! ## The pipe that an input file takes the place of -/

/-- The pipe that was carried over is closed before the input file is opened, so the system knows by
then that the shell does not hold it. -/
structure ClosesFirst (s : Shell σ α η) (incoming : Option Nat) (path : String)
    (notes : List (Event α η)) : Prop where
  order : ∃ rest, notes = incoming.toList.map .close ++
    .openInput path ((s.closeAll incoming.toList).openInput path).1 :: rest
  released : ∀ fd a, incoming = some fd → s.descriptors.get? fd = some a →
    (s.closeAll incoming.toList).host = Host.release a s.host

/-- A file that is read takes the place of the pipe only when the pipe has been closed. -/
theorem exists_closesFirst (hpath : stage.input = some path) :
    ∃ notes, (s.resolve index stage incoming).2.events = s.events ++ notes ∧
      ClosesFirst s incoming path notes := by
  obtain ⟨rest, hrest, -⟩ := setsUp_of_resolveInput s index stage incoming
  refine ⟨incoming.toList.map .close ++
    .openInput path ((s.closeAll incoming.toList).openInput path).1 :: rest, ?_, ⟨rest, rfl⟩, ?_⟩
  · have hin : (s.resolveInput stage incoming).2 =
        ((s.closeAll incoming.toList).openInput path).2 := by
      simp only [resolveInput, hpath]
      split <;> simp [*]
    rw [hrest, hin, (acts_openInput _ path).events_eq, events_closeAll]
    simp
  · rintro fd a rfl ha
    exact host_close ha

end Shell

/-! ## Processes that wait to write -/

def Process.AwaitsWriting (p : Process) (pipe : Nat) : Prop :=
  p.phase = .waiting ∧ ∃ fd bytes next, p.program = .write fd bytes next ∧
    p.descriptors.get? fd = some (.writer pipe)

namespace Machine

variable {m : Machine} {pipe : Nat}

theorem canGoOn_of_isBroken {p : Process} (hbroken : isBroken m.world pipe = true)
    (hp : p.AwaitsWriting pipe) : m.canGoOn p = true := by
  obtain ⟨-, fd, bytes, next, hprogram, hfd⟩ := hp
  simp [canGoOn, hprogram, hfd, hbroken]

theorem not_awaitsWriting_wake
    (h : ∀ p ∈ m.processes, p.AwaitsWriting pipe → m.canGoOn p = true) :
    ∀ p ∈ m.wake.processes, ¬ p.AwaitsWriting pipe := by
  intro q hq hawaits
  obtain ⟨p, hp, rfl⟩ := List.mem_map.mp hq
  split_ifs at hawaits with hgo
  · cases hawaits.1
  · exact hgo (by simp [hawaits.1, h p hp hawaits])

theorem not_awaitsWriting_of_setup {d d' : Descriptors Channel} {m m' : Machine}
    {e : Event Channel Nat} (h : Operates d m e d' m') (he : e.isSetup = true)
    (hm : ∀ p ∈ m.processes, ¬ p.AwaitsWriting pipe) :
    ∀ p ∈ m'.processes, ¬ p.AwaitsWriting pipe := by
  cases h with
  | inputRefused answer | inputOpened answer | outputRefused answer | outputOpened answer
  | pipeRefused answer =>
      obtain rfl := congrArg Prod.snd answer
      exact hm
  | pipeMade answer keeps =>
      obtain rfl := congrArg Prod.snd answer
      cases keeps with
      | refused first =>
          obtain rfl := congrArg Prod.snd first
          exact hm
      | asked first second =>
          obtain rfl := congrArg Prod.snd first
          obtain rfl := congrArg Prod.snd second
          exact hm
  | closed => exact not_awaitsWriting_wake fun p hp hawaits => absurd hawaits (hm p hp)
  | notHeld => exact hm
  | attempted => cases he
  | awaited => cases he
  | warned => cases he

/-- Whoever waits to write goes on when the last reader gives a pipe back. -/
theorem not_awaitsWriting_release
    (hlast : ∀ p, m.world.pipes[pipe]? = some p → p.readers = 1) :
    ∀ p ∈ (Host.release (Channel.reader pipe) m).processes, ¬ p.AwaitsWriting pipe := by
  have hbroken : isBroken (m.world.release (.reader pipe)) pipe = true := by
    simp only [isBroken, World.release, World.updatePipe, Array.getElem?_modify]
    rcases hpipe : m.world.pipes[pipe]? with _ | p
    · simp
    · simp [hlast p hpipe]
  exact not_awaitsWriting_wake fun p _ hawaits => canGoOn_of_isBroken hbroken hawaits

end Machine

namespace Shell

/-- Connecting a stage leaves open what was open before and what the stage is given, each under a
descriptor of its own. A pipe that was carried over is closed exactly if the stage names an input
file, and then before the file is opened, so nobody waits to write into it any longer if the shell
was its only reader. If the stage cannot be connected, only what was open before is left, without
the pipe that was carried over. -/
theorem resolve_accounts_for_descriptors {σ α η : Type} [Host σ α η] (s : Shell σ α η)
    (index : Nat) (stage : Stage) (incoming : Option Nat)
    (hopen : ∀ fd, incoming = some fd → s.descriptors.isOpen fd = true) :
    (∀ r t, s.resolve index stage incoming = (.ok r, t) →
      ∃ notes, t.events = s.events ++ notes ∧ Connected s index stage incoming notes r t) ∧
    (∀ f t, s.resolve index stage incoming = (.error f, t) →
      GivenUp s index stage incoming f t) ∧
    (∀ path, stage.input = some path →
      ∃ notes, (s.resolve index stage incoming).2.events = s.events ++ notes ∧
        ClosesFirst s incoming path notes) ∧
    ∀ (m : Shell Machine Channel Nat) (fd pipe : Nat), stage.input.isSome = true →
      m.descriptors.get? fd = some (.reader pipe) →
      (∀ p, m.host.world.pipes[pipe]? = some p → p.readers = 1) →
      ∀ p ∈ (m.resolve index stage (some fd)).2.host.processes, ¬ p.AwaitsWriting pipe := by
  refine ⟨fun r t h => connected_of_resolve_ok hopen h, fun f t h => givenUp_of_resolve_error h,
    fun path hpath => exists_closesFirst hpath, ?_⟩
  intro m fd pipe hinput hfd hlast
  obtain ⟨path, hpath⟩ := Option.isSome_iff_exists.mp hinput
  have hreleased : ∀ p ∈ (m.closeAll [fd]).host.processes, ¬ p.AwaitsWriting pipe := by
    have hhost : (m.closeAll [fd]).host = Host.release (.reader pipe) m.host := host_close hfd
    rw [hhost]
    exact Machine.not_awaitsWriting_release hlast
  rw [resolve_of_input hpath]
  exact resolve_invariant (P := fun s => ∀ p ∈ s.host.processes, ¬ p.AwaitsWriting pipe)
    (fun s e t h he hs => Machine.not_awaitsWriting_of_setup h.operates he hs) hreleased index stage
    none

/-- A shell that holds the read end of a pipe under descriptor 3. -/
def carrying (refusals : Nat → Option Errno) : Shell Sandbox Channel Nat where
  descriptors := ⟨[some .terminal, some .output, some .errors, some (.reader 0)]⟩
  host :=
    { setting := { locate := fun _ => 0, programs := fun _ bytes => bytes, refusals }
      contents := fun _ => some []
      pipes := [{}] }

def sorting : Stage :=
  { argv := ["sort"], input := some "words", output := .pipe }

/-- The file is opened under the descriptor of the pipe that was closed for it. If the second end of
the new pipe cannot be kept from programs, all three descriptors are closed again. -/
theorem resolve_accounts_for_descriptors_sorting :
    (∀ fd, some 3 = some fd → (carrying fun _ => none).descriptors.isOpen fd = true) ∧
    (∃ notes t, t.events = [] ++ notes ∧
      Connected (carrying fun _ => none) 1 sorting (some 3) notes
        ⟨⟨.file 3, .pipe 5⟩, some 4⟩ t) ∧
    ∃ t, GivenUp (carrying fun n => if n = 3 then some .tooManyOpenFiles else none) 1 sorting
      (some 3) (.pipe 1 .tooManyOpenFiles) t := by
  have hopen : ∀ refusals fd, some 3 = some fd →
      (carrying refusals).descriptors.isOpen fd = true := by
    rintro refusals fd ⟨⟩
    rfl
  refine ⟨hopen _, ?_, ?_⟩
  · obtain ⟨notes, hnotes, hconnected⟩ :=
      (resolve_accounts_for_descriptors (carrying fun _ => none) 1 sorting (some 3)
        (hopen _)).1 _ _ rfl
    exact ⟨notes, _, hnotes, hconnected⟩
  · exact ⟨_, (resolve_accounts_for_descriptors _ 1 sorting (some 3) (hopen _)).2.1 _ _ rfl⟩

end Shell

end ShellPipeline
