import Mathlib.Data.Finset.Basic
import Mathlib.Data.Finset.Lattice.Lemmas
import ShellPipeline.Proofs.Run.Phases

/-!
# Ownership of descriptors

Every descriptor that a run opens is closed once. The events of a run are read as a ledger of
descriptors, and `Accounts` ties the ledger to the table of the shell: the table holds what it held
at first and what the ledger has open. Each step of a run says what it does to the list of
descriptors that are open, and between two stages only a read end is on that list.
-/

namespace ShellPipeline

namespace Descriptors

variable {α : Type} (d : Descriptors α) (a : α)

theorem get?_fst_add : d.get? (d.add a).1 = none :=
  d.get?_lowestFree

@[simp] theorem get?_add_self : (d.add a).2.get? (d.add a).1 = some a :=
  d.get?_put_self _ a

theorem get?_add_ne {fd : Nat} (h : fd ≠ (d.add a).1) : (d.add a).2.get? fd = d.get? fd :=
  d.get?_put_ne a h

theorem get?_add_of_eq_some {d : Descriptors α} {fd : Nat} {b : α} (h : d.get? fd = some b)
    (a : α) : (d.add a).2.get? fd = some b := by
  rw [d.get?_add_ne a, h]
  rintro rfl
  rw [d.get?_fst_add] at h
  cases h

theorem fst_add_add_ne (b : α) : ((d.add a).2.add b).1 ≠ (d.add a).1 := by
  intro h
  have hnone := (d.add a).2.get?_fst_add b
  rw [h, get?_add_self] at hnone
  cases hnone

end Descriptors

def Event.opened {α η : Type} : Event α η → List Nat
  | .openInput _ (.ok fd) => [fd]
  | .openOutput _ _ (.ok fd) => [fd]
  | .makePipe _ (.ok (readEnd, writeEnd)) => [readEnd, writeEnd]
  | _ => []

def Event.closed {α η : Type} : Event α η → List Nat
  | .close fd => [fd]
  | _ => []

/-- The descriptors that events have opened and not closed since. -/
def live {α η : Type} (events : List (Event α η)) : Finset Nat :=
  events.foldl (fun fds e => (fds ∪ e.opened.toFinset) \ e.closed.toFinset) ∅

/-- What can happen to a descriptor. -/
inductive Use where
  | opened
  | closed
deriving DecidableEq, Repr

def Event.uses {α η : Type} (fd : Nat) (e : Event α η) : List Use :=
  List.replicate (e.opened.count fd) .opened ++ List.replicate (e.closed.count fd) .closed

def uses {α η : Type} (fd : Nat) (events : List (Event α η)) : List Use :=
  events.flatMap (Event.uses fd)

def pairs (n : Nat) : List Use :=
  (List.replicate n [Use.opened, Use.closed]).flatten

/-- The descriptors of a connected stage: its own, and the read end that is kept for the next. -/
def Resolved.descriptors (r : Resolved) : List Nat :=
  r.wiring.descriptors ++ r.downstream.toList

/-- A statement about an event and the events before it, made at every place of a list. -/
def Along {ε : Type} (P : List ε → ε → Prop) (l : List ε) : Prop :=
  ∀ i e, l[i]? = some e → P (l.take i) e

theorem along_concat {ε : Type} {P : List ε → ε → Prop} {l : List ε} {e : ε} (hl : Along P l)
    (he : P l e) : Along P (l ++ [e]) := by
  intro i x hx
  rcases Nat.lt_trichotomy i l.length with hlt | heq | hgt
  · rw [List.getElem?_append_left hlt] at hx
    rw [List.take_append_of_le_length (Nat.le_of_lt hlt)]
    exact hl i x hx
  · subst heq
    obtain rfl : e = x := by simpa using hx
    simpa using he
  · have hlength : (l ++ [e]).length ≤ i := by simpa using Nat.succ_le_of_lt hgt
    rw [List.getElem?_eq_none hlength] at hx
    cases hx

theorem along_append {ε : Type} {P : List ε → ε → Prop} {l more : List ε} (hl : Along P l)
    (hmore : Along (fun before => P (l ++ before)) more) : Along P (l ++ more) := by
  intro i x hx
  by_cases hlt : i < l.length
  · rw [List.getElem?_append_left hlt] at hx
    rw [List.take_append_of_le_length (Nat.le_of_lt hlt)]
    exact hl i x hx
  · have hle := Nat.le_of_not_lt hlt
    rw [List.getElem?_append_right hle] at hx
    rw [List.take_append, List.take_of_length_le hle]
    exact hmore (i - l.length) x hx

section Ledger

variable {α η : Type} {base : Descriptors α} {events : List (Event α η)} {e : Event α η}

@[simp] theorem live_concat (events : List (Event α η)) (e : Event α η) :
    live (events ++ [e]) = (live events ∪ e.opened.toFinset) \ e.closed.toFinset := by
  simp [live]

@[simp] theorem uses_concat (fd : Nat) (events : List (Event α η)) (e : Event α η) :
    uses fd (events ++ [e]) = uses fd events ++ e.uses fd := by
  simp [uses]

theorem pairs_concat (n : Nat) : pairs n ++ [.opened, .closed] = pairs (n + 1) := by
  simp [pairs, List.replicate_succ']

/-- When a process is created, open are the descriptors of its stage and nothing else that was
opened, and the process gets a copy of the table. When a process is waited for, nothing is open. -/
def Orderly (base : Descriptors α) (before : List (Event α η)) : Event α η → Prop
  | .spawn launch _ =>
    live before = launch.resolved.descriptors.toFinset ∧
      ∀ fd, launch.descriptors.isOpen fd = true ↔
        base.isOpen fd = true ∨ fd ∈ launch.resolved.descriptors
  | .wait _ _ _ => live before = ∅
  | _ => True

/-- The events have `held` open, every descriptor was opened and closed in turn, and processes were
created and waited for in order. -/
structure Ledger (base : Descriptors α) (events : List (Event α η)) (held : List Nat) : Prop where
  live_eq : live events = held.toFinset
  uses_eq : ∀ fd, ∃ n, uses fd events = pairs n ++ if fd ∈ held then [.opened] else []
  orderly : Along (Orderly base) events

theorem Ledger.nil (base : Descriptors α) : Ledger base ([] : List (Event α η)) [] where
  live_eq := rfl
  uses_eq := fun _ => ⟨0, rfl⟩
  orderly := fun i e he => by simp at he

/-- An event that opens free descriptors adds them to the ledger. -/
theorem Ledger.opens {held : List Nat} (h : Ledger base events held) (hclosed : e.closed = [])
    (hnodup : e.opened.Nodup) (hfree : ∀ fd ∈ e.opened, fd ∉ held)
    (horderly : Orderly base events e) : Ledger base (events ++ [e]) (held ++ e.opened) where
  live_eq := by simp [h.live_eq, hclosed]
  uses_eq := by
    intro fd
    obtain ⟨n, hn⟩ := h.uses_eq fd
    refine ⟨n, ?_⟩
    by_cases hfd : fd ∈ e.opened
    · simp [hn, Event.uses, hclosed, hfd, hfree fd hfd, List.count_eq_one_of_mem hnodup hfd]
    · simp [hn, Event.uses, hclosed, hfd, List.count_eq_zero.mpr hfd]
  orderly := along_concat h.orderly horderly

/-- An event that closes a descriptor takes it out of the ledger. -/
theorem Ledger.closes {fd : Nat} {held : List Nat} (h : Ledger base events (fd :: held))
    (hfd : fd ∉ held) : Ledger base (events ++ [.close fd]) held where
  live_eq := by
    have herase : insert fd held.toFinset \ {fd} = held.toFinset := by
      rw [Finset.sdiff_singleton_eq_erase, Finset.erase_insert (by simpa using hfd)]
    simpa [h.live_eq, Event.opened, Event.closed] using herase
  uses_eq := by
    intro other
    obtain ⟨n, hn⟩ := h.uses_eq other
    by_cases hother : other = fd
    · subst hother
      refine ⟨n + 1, ?_⟩
      simp [hn, Event.uses, Event.opened, Event.closed, hfd, ← pairs_concat]
    · refine ⟨n, ?_⟩
      simp [hn, Event.uses, Event.opened, Event.closed, hother, Ne.symm hother]
  orderly := along_concat h.orderly trivial

theorem Ledger.perm {held held' : List Nat} (h : Ledger base events held) (hp : held.Perm held') :
    Ledger base events held' where
  live_eq := by rw [h.live_eq, List.toFinset_eq_of_perm _ _ hp]
  uses_eq := by simpa only [hp.mem_iff] using h.uses_eq
  orderly := h.orderly

end Ledger

def yields {ε β : Type} (fds : β → List Nat) : Except ε β → List Nat
  | .ok b => fds b
  | .error _ => []

namespace Shell

variable {σ α η : Type} {base s t : Shell σ α η} {held : List Nat}

/-- Since `base`, the shell has opened the descriptors `held` and not closed them; all else that it
opened is closed, and the rest of its table is as it was. -/
structure Accounts (base : Shell σ α η) (held : List Nat) (s : Shell σ α η) : Prop where
  nodup : held.Nodup
  ledger : ∃ notes, s.events = base.events ++ notes ∧ Ledger base.descriptors notes held
  kept : ∀ fd, fd ∉ held → s.descriptors.get? fd = base.descriptors.get? fd
  fresh : ∀ fd ∈ held, base.descriptors.get? fd = none
  isOpen : ∀ fd ∈ held, s.descriptors.isOpen fd = true

namespace Accounts

theorem refl (s : Shell σ α η) : Accounts s [] s where
  nodup := List.nodup_nil
  ledger := ⟨[], by simp, .nil _⟩
  kept := fun _ _ => rfl
  fresh := by simp
  isOpen := by simp

theorem perm {held' : List Nat} (h : Accounts base held s) (hp : held.Perm held') :
    Accounts base held' s where
  nodup := hp.nodup_iff.mp h.nodup
  ledger := by
    obtain ⟨notes, hnotes, hledger⟩ := h.ledger
    exact ⟨notes, hnotes, hledger.perm hp⟩
  kept := by simpa only [hp.mem_iff] using h.kept
  fresh := by simpa only [hp.mem_iff] using h.fresh
  isOpen := by simpa only [hp.mem_iff] using h.isOpen

theorem isOpen_iff (h : Accounts base held s) (fd : Nat) :
    s.descriptors.isOpen fd = true ↔ base.descriptors.isOpen fd = true ∨ fd ∈ held := by
  by_cases hfd : fd ∈ held
  · simp [hfd, h.isOpen fd hfd]
  · simp [hfd, Descriptors.isOpen, h.kept fd hfd]

/-- What the shell had open at first stays as it was. -/
theorem get?_eq_some (h : Accounts base held s) {fd : Nat} {a : α}
    (hfd : base.descriptors.get? fd = some a) : s.descriptors.get? fd = some a := by
  rw [h.kept fd, hfd]
  intro hmem
  rw [h.fresh fd hmem] at hfd
  cases hfd

theorem opens (h : Accounts base held s) {e : Event α η} (hevents : t.events = s.events ++ [e])
    (hclosed : e.closed = []) (hnodup : e.opened.Nodup)
    (hfree : ∀ fd ∈ e.opened, s.descriptors.get? fd = none)
    (hopen : ∀ fd ∈ e.opened, t.descriptors.isOpen fd = true)
    (hkeep : ∀ fd, fd ∉ e.opened → t.descriptors.get? fd = s.descriptors.get? fd)
    (horderly : ∀ notes, live notes = held.toFinset → Orderly base.descriptors notes e) :
    Accounts base (held ++ e.opened) t := by
  have hdisjoint : ∀ fd ∈ e.opened, fd ∉ held := by
    intro fd hfd hheld
    have hsome := h.isOpen fd hheld
    rw [Descriptors.isOpen, hfree fd hfd] at hsome
    cases hsome
  obtain ⟨notes, hnotes, hledger⟩ := h.ledger
  refine ⟨?_, ⟨notes ++ [e], by simp [hevents, hnotes], ?_⟩, ?_, ?_, ?_⟩
  · exact List.nodup_append'.mpr ⟨h.nodup, hnodup, fun fd hheld hfd => hdisjoint fd hfd hheld⟩
  · exact hledger.opens hclosed hnodup hdisjoint (horderly notes hledger.live_eq)
  · intro fd hfd
    obtain ⟨hheld, hopened⟩ : fd ∉ held ∧ fd ∉ e.opened := by simpa using hfd
    rw [hkeep fd hopened, h.kept fd hheld]
  · intro fd hfd
    rcases List.mem_append.mp hfd with hheld | hopened
    · exact h.fresh fd hheld
    · rw [← h.kept fd (hdisjoint fd hopened), hfree fd hopened]
  · intro fd hfd
    by_cases hopened : fd ∈ e.opened
    · exact hopen fd hopened
    · have hheld : fd ∈ held := (List.mem_append.mp hfd).resolve_right hopened
      rw [Descriptors.isOpen, hkeep fd hopened]
      exact h.isOpen fd hheld

theorem notes (h : Accounts base held s) {e : Event α η} (hevents : t.events = s.events ++ [e])
    (htable : t.descriptors = s.descriptors) (hopened : e.opened = []) (hclosed : e.closed = [])
    (horderly : ∀ notes, live notes = held.toFinset → Orderly base.descriptors notes e) :
    Accounts base held t := by
  have hopens := h.opens hevents hclosed (by simp [hopened]) (by simp [hopened])
    (by simp [hopened]) (by simp [htable]) horderly
  simpa [hopened] using hopens

theorem adds (h : Accounts base held s) {e : Event α η} {a : α}
    (hevents : t.events = s.events ++ [e]) (htable : t.descriptors = (s.descriptors.add a).2)
    (hopened : e.opened = [(s.descriptors.add a).1]) (hclosed : e.closed = [])
    (horderly : ∀ notes, live notes = held.toFinset → Orderly base.descriptors notes e) :
    Accounts base (held ++ [(s.descriptors.add a).1]) t := by
  rw [← hopened]
  refine h.opens hevents hclosed ?_ ?_ ?_ ?_ horderly
  · simp [hopened]
  · simp [hopened, Descriptors.get?_fst_add]
  · simp [hopened, htable, Descriptors.isOpen]
  · intro fd hfd
    rw [hopened, List.mem_singleton] at hfd
    rw [htable, Descriptors.get?_add_ne _ _ hfd]

theorem addsTwo (h : Accounts base held s) {e : Event α η} {a b : α} {fd fd' : Nat}
    (hfd : fd = (s.descriptors.add a).1) (hfd' : fd' = ((s.descriptors.add a).2.add b).1)
    (hevents : t.events = s.events ++ [e])
    (htable : t.descriptors = ((s.descriptors.add a).2.add b).2) (hopened : e.opened = [fd, fd'])
    (hclosed : e.closed = [])
    (horderly : ∀ notes, live notes = held.toFinset → Orderly base.descriptors notes e) :
    Accounts base (held ++ [fd, fd']) t := by
  -- the second object is added to a table that holds the first
  have hne : fd' ≠ fd := by
    rw [hfd, hfd']
    exact Descriptors.fst_add_add_ne _ _ _
  have hfree : s.descriptors.get? fd' = none := by
    rw [← Descriptors.get?_add_ne s.descriptors a (hfd ▸ hne), hfd']
    exact Descriptors.get?_fst_add _ b
  have hkeep : ∀ other, other ≠ fd → other ≠ fd' →
      t.descriptors.get? other = s.descriptors.get? other := by
    intro other hother hother'
    rw [htable, Descriptors.get?_add_ne _ _ (hfd' ▸ hother'),
      Descriptors.get?_add_ne _ _ (hfd ▸ hother)]
  rw [← hopened]
  refine h.opens hevents hclosed ?_ ?_ ?_ ?_ horderly
  · simp [hopened, Ne.symm hne]
  · simp [hopened, hfree, hfd, Descriptors.get?_fst_add]
  · have hfirst : t.descriptors.get? fd = some a := by
      rw [htable, Descriptors.get?_add_ne _ _ (hfd' ▸ Ne.symm hne), hfd]
      exact Descriptors.get?_add_self _ a
    have hsecond : t.descriptors.get? fd' = some b := by
      rw [htable, hfd']
      exact Descriptors.get?_add_self _ b
    simp [hopened, Descriptors.isOpen, hfirst, hsecond]
  · intro other hother
    rw [hopened] at hother
    exact hkeep other (by simp_all) (by simp_all)

theorem warn (h : Accounts base held s) (w : Warning) : Accounts base held (s.warn w) :=
  h.notes (events_warn s w) rfl rfl rfl fun _ _ => trivial

variable [Host σ α η]

/-! ## Steps -/

theorem openInput (h : Accounts base held s) (path : String) :
    Accounts base (held ++ yields (fun fd => [fd]) (s.openInput path).1) (s.openInput path).2 := by
  unfold Shell.openInput
  rcases Host.openInput path s.host with ⟨e | a, host⟩
  · simp only [yields, List.append_nil]
    exact h.notes rfl rfl rfl rfl fun _ _ => trivial
  · exact h.adds rfl rfl rfl rfl fun _ _ => trivial

theorem openOutput (h : Accounts base held s) (mode : WriteMode) (path : String) :
    Accounts base (held ++ yields (fun fd => [fd]) (s.openOutput mode path).1)
      (s.openOutput mode path).2 := by
  unfold Shell.openOutput
  rcases Host.openOutput mode path s.host with ⟨e | a, host⟩
  · simp only [yields, List.append_nil]
    exact h.notes rfl rfl rfl rfl fun _ _ => trivial
  · exact h.adds rfl rfl rfl rfl fun _ _ => trivial

theorem close {fd : Nat} (h : Accounts base (fd :: held) s) : Accounts base held (s.close fd) := by
  obtain ⟨hfd, hnodup⟩ := List.nodup_cons.mp h.nodup
  obtain ⟨notes, hnotes, hledger⟩ := h.ledger
  refine ⟨hnodup, ⟨notes ++ [.close fd], ?_, hledger.closes hfd⟩, ?_, ?_, ?_⟩
  · simp [Shell.close, hnotes]
  · intro other hother
    by_cases heq : other = fd
    · subst heq
      rw [h.fresh other List.mem_cons_self]
      exact Descriptors.get?_close_self _ _
    · rw [← h.kept other (by simp [heq, hother])]
      exact Descriptors.get?_close_ne _ heq
  · exact fun other hother => h.fresh other (List.mem_cons_of_mem _ hother)
  · intro other hother
    have heq : other ≠ fd := fun heq => hfd (heq ▸ hother)
    have hopen := h.isOpen other (List.mem_cons_of_mem _ hother)
    rwa [Descriptors.isOpen, ← Descriptors.get?_close_ne s.descriptors heq] at hopen

theorem closeAll {fds : List Nat} (h : Accounts base (fds ++ held) s) :
    Accounts base held (s.closeAll fds) := by
  induction fds generalizing s with
  | nil => exact h
  | cons fd fds ih => exact ih (close h)

theorem descriptors_protectBoth (s : Shell σ α η) (r w : α) :
    (s.protectBoth r w).2.descriptors = s.descriptors := by
  unfold protectBoth
  split <;> rfl

theorem protectBoth (h : Accounts base held s) (r w : α) :
    Accounts base held (s.protectBoth r w).2 where
  nodup := h.nodup
  ledger := by simpa only [events_protectBoth] using h.ledger
  kept := by simpa only [descriptors_protectBoth] using h.kept
  fresh := h.fresh
  isOpen := by simpa only [descriptors_protectBoth] using h.isOpen

/-- A pipe that is not made leaves no descriptor behind. -/
theorem makePipe (h : Accounts base held s) (stage : Nat) :
    Accounts base (held ++ yields (fun ends => [ends.1, ends.2]) (s.makePipe stage).1)
      (s.makePipe stage).2 := by
  unfold Shell.makePipe
  rcases Host.makePipe s.host with ⟨e | ⟨r, w⟩, host⟩
  · simp only [yields, List.append_nil]
    exact h.notes rfl rfl rfl rfl fun _ _ => trivial
  · dsimp only
    set made : Shell σ α η := Shell.note _ _ with hmade
    have hboth := h.addsTwo (t := made) rfl rfl rfl rfl rfl rfl fun _ _ => trivial
    have hkept := hboth.protectBoth r w
    rcases hp : made.protectBoth r w with ⟨e | _, u⟩ <;> rw [hp] at hkept
    · simp only [yields, List.append_nil]
      exact closeAll (hkept.perm List.perm_append_comm)
    · exact hkept

theorem resolveInput {incoming : Option Nat} (h : Accounts base incoming.toList s)
    (stage : Stage) :
    Accounts base (yields (fun c => c.descriptor?.toList) (s.resolveInput stage incoming).1)
      (s.resolveInput stage incoming).2 := by
  unfold Shell.resolveInput
  cases stage.input with
  | some path =>
      have hopen := (closeAll (by simpa using h) : Accounts base [] _).openInput path
      dsimp only
      rcases ho : (s.closeAll incoming.toList).openInput path with ⟨e | fd, u⟩ <;>
        rw [ho] at hopen <;> exact hopen
  | none => cases incoming <;> exact h

theorem resolveOutput (h : Accounts base held s) (index : Nat) (stage : Stage) :
    Accounts base
      (held ++ yields (fun q => q.1.descriptor?.toList ++ q.2.toList)
        (s.resolveOutput index stage).1)
      (s.resolveOutput index stage).2 := by
  unfold Shell.resolveOutput
  cases stage.output with
  | inherit => simpa [yields, Connection.descriptor?] using h
  | file mode path =>
      have hopen := h.openOutput mode path
      dsimp only
      rcases ho : s.openOutput mode path with ⟨e | fd, u⟩ <;> rw [ho] at hopen <;> exact hopen
  | pipe =>
      have hpipe := h.makePipe index
      dsimp only
      rcases hp : s.makePipe index with ⟨e | ⟨r, w⟩, u⟩ <;> rw [hp] at hpipe
      · exact hpipe
      · exact hpipe.perm (List.Perm.append_left held (List.Perm.swap w r []))

/-- A connected stage has its descriptors open, and nothing else is; if it cannot be connected,
nothing is open. -/
theorem resolve {incoming : Option Nat} (h : Accounts base incoming.toList s) (index : Nat)
    (stage : Stage) :
    Accounts base (yields Resolved.descriptors (s.resolve index stage incoming).1)
      (s.resolve index stage incoming).2 := by
  have hin := h.resolveInput stage
  unfold Shell.resolve
  rcases hi : s.resolveInput stage incoming with ⟨f | stdin, u⟩ <;> rw [hi] at hin
  · exact hin
  · have hout := hin.resolveOutput index stage
    dsimp only at hout ⊢
    rcases ho : u.resolveOutput index stage with ⟨f | ⟨stdout, downstream⟩, v⟩ <;> rw [ho] at hout
    · exact closeAll hout
    · simpa [yields, Resolved.descriptors, Wiring.descriptors] using hout

/-- Whether or not its process was created, the descriptors of a stage are closed. -/
theorem spawn {r : Resolved} (h : Accounts base r.descriptors s) (index : Nat) (stage : Stage) :
    Accounts base r.downstream.toList (s.spawn index stage r).2 :=
  closeAll (h.notes (e := s.attempt index stage r (s.spawn index stage r).1) rfl rfl rfl rfl
    fun _ hlive => ⟨hlive, h.isOpen_iff⟩)

theorem wait (h : Accounts base [] s) (index : Nat) (process : η) :
    Accounts base [] (s.wait index process).2 :=
  h.notes (events_wait s index process) rfl rfl rfl fun _ hlive => hlive

/-- A stage that was started leaves the read end that is carried over, and one that was not leaves
nothing. -/
theorem launch {incoming : Option Nat} (h : Accounts base incoming.toList s) (index : Nat)
    (stage : Stage) :
    Accounts base (yields (fun q => q.2.toList) (s.launch index stage incoming).1)
      (s.launch index stage incoming).2 := by
  have hresolve := h.resolve index stage
  rcases hl : s.launch index stage incoming with ⟨f | ⟨process, downstream⟩, t⟩
  · rcases launch_eq_error hl with hr | ⟨r, u, v, hr, hs, rfl⟩
    · rwa [hr] at hresolve
    · rw [hr] at hresolve
      have hspawn := hresolve.spawn index stage
      rw [hs] at hspawn
      exact closeAll (by simpa [yields] using hspawn)
  · obtain ⟨r, u, hr, hs, rfl⟩ := launch_eq_ok hl
    rw [hr] at hresolve
    have hspawn := hresolve.spawn index stage
    rwa [hs] at hspawn

/-! ## Runs -/

theorem of_started {stages : List Stage} {processes : List η} {incoming : Option Nat}
    (h : Started s stages processes incoming t) : Accounts s incoming.toList t := by
  induction h with
  | nil => exact refl s
  | @concat processes incoming downstream u t' stage process _ _ launch ih =>
      have hlaunch := ih.launch processes.length stage
      rwa [launch] at hlaunch

theorem of_launchEnds {stages : List Stage} {processes : List η} {leftover : Option Nat}
    {fault : Option Fault} (h : LaunchEnds s stages processes leftover fault t) :
    Accounts s leftover.toList t := by
  cases h with
  | all started _ => exact of_started started
  | @fault incoming u t' stage f started _ launch =>
      have hlaunch := (of_started started).launch processes.length stage
      rw [launch] at hlaunch
      exact hlaunch.warn _

theorem reapAll (h : Accounts base [] s) (last : Nat) (processes : List (Nat × η)) :
    Accounts base [] (s.reapAll last processes).2 :=
  reapAll_invariant (fun _ index process h => h.wait index process) (fun _ w h => h.warn w) h
    last processes

/-- A run leaves nothing open that it opened. -/
theorem run (s : Shell σ α η) (p : Pipeline) : Accounts s [] (s.run p).2 := by
  obtain ⟨processes, leftover, fault, t, outcomes, hends, -, hrun, -⟩ := run_phases s p
  rw [hrun]
  exact reapAll (closeAll (by simpa using of_launchEnds hends)) _ _

end Accounts

variable [Host σ α η]

/-- Every descriptor that a run opens is closed once: whenever a process is created the run has
open what the stage is connected to and its read end, and nothing else; whenever a process is
waited for, and at the end, it has nothing open. -/
theorem run_closes_descriptors (s : Shell σ α η) (p : Pipeline) :
    (∀ (i : Nat) (launch : Launch α) (outcome : Except Fault η),
      (s.trace p)[i]? = some (.spawn launch outcome) →
        live ((s.trace p).take i) =
          (launch.resolved.wiring.descriptors ++ launch.resolved.downstream.toList).toFinset ∧
        ∀ fd, launch.descriptors.isOpen fd = true ↔
          s.descriptors.isOpen fd = true ∨ fd ∈ live ((s.trace p).take i)) ∧
    (∀ (i index : Nat) (process : η) (outcome : Except Fault Exit),
      (s.trace p)[i]? = some (.wait index process outcome) → live ((s.trace p).take i) = ∅) ∧
    (live (s.trace p) = ∅ ∧
      ∀ fd, (s.run p).2.descriptors.get? fd = s.descriptors.get? fd) ∧
    ∀ fd, ∃ n, uses fd (s.trace p) = (List.replicate n [Use.opened, Use.closed]).flatten := by
  have h := Accounts.run s p
  obtain ⟨notes, hnotes, hledger⟩ := h.ledger
  rw [trace_eq_of_events hnotes]
  refine ⟨?_, ?_, ⟨by simp [hledger.live_eq], fun fd => h.kept fd (by simp)⟩, ?_⟩
  · intro i launch outcome hi
    obtain ⟨hlive, hopen⟩ := hledger.orderly i _ hi
    refine ⟨hlive, fun fd => ?_⟩
    rw [hlive, List.mem_toFinset]
    exact hopen fd
  · intro i index process outcome hi
    exact hledger.orderly i _ hi
  · intro fd
    obtain ⟨n, hn⟩ := hledger.uses_eq fd
    exact ⟨n, by simpa [pairs] using hn⟩

end Shell

end ShellPipeline
