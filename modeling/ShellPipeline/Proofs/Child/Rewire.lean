import ShellPipeline.Proofs.Run.Ownership

/-!
# A new process step by step

A new process begins with a copy of the table of the shell and changes it by single requests before
its program runs. When what it is connected to has other numbers than the standard streams, all
requests succeed and it ends with its connections as its standard streams, with nothing else that
it was given, and with all other descriptors as they were.
-/

namespace ShellPipeline

/-- A request by which a new process changes its table. -/
inductive Rewiring where
  | close (fd : Nat)
  | duplicate (fd target : Nat)
deriving DecidableEq, Repr

/-- The requests that move a descriptor, if there is one, to another number. -/
def moving (target : Nat) : Option Nat → List Rewiring
  | none => []
  | some fd => if fd = target then [] else [.duplicate fd target, .close fd]

/-- What a new process asks for before its program runs, in order. -/
def Resolved.rewirings (r : Resolved) : List Rewiring :=
  r.downstream.toList.map .close ++ moving standardInput r.wiring.stdin.descriptor? ++
    moving standardOutput r.wiring.stdout.descriptor?

namespace Descriptors

variable {α : Type} {d d' : Descriptors α} {r : Resolved} {fd? : Option Nat}

def step? (d : Descriptors α) : Rewiring → Option (Descriptors α)
  | .close fd => some (d.close fd)
  | .duplicate fd target => d.duplicate? fd target

def steps? (d : Descriptors α) (l : List Rewiring) : Option (Descriptors α) :=
  l.foldlM step? d

@[simp] theorem steps?_nil (d : Descriptors α) : d.steps? [] = some d := rfl

theorem steps?_cons (d : Descriptors α) (step : Rewiring) (l : List Rewiring) :
    d.steps? (step :: l) = (d.step? step).bind (·.steps? l) := rfl

theorem steps?_append (d : Descriptors α) (l l' : List Rewiring) :
    d.steps? (l ++ l') = (d.steps? l).bind (·.steps? l') :=
  List.foldlM_append

/-! ## One request after the other -/

theorem steps?_close? (d : Descriptors α) (fd? : Option Nat) :
    d.steps? (fd?.toList.map .close) = some (d.close? fd?) := by
  cases fd? <;> rfl

theorem steps?_moving (d : Descriptors α) (fd? : Option Nat) (target : Nat) :
    d.steps? (moving target fd?) = (d.move? fd? target).toOption := by
  rcases fd? with _ | fd
  · rfl
  · rw [moving, move?, move]
    split
    · rfl
    · rw [steps?_cons, step?]
      cases d.duplicate? fd target <;> rfl

/-- A new process has the table that its requests lead to. -/
theorem steps?_rewirings (d : Descriptors α) (r : Resolved) :
    d.steps? r.rewirings = (d.rewire r).toOption := by
  rw [Resolved.rewirings, List.append_assoc, steps?_append, steps?_close?, Option.bind_some,
    steps?_append, steps?_moving, rewire]
  rcases (d.close? r.downstream).move? r.wiring.stdin.descriptor? standardInput with e | d'
  · rfl
  · exact steps?_moving d' _ _

/-- The table with which a program begins is what the requests of its process come to, one after the
other. -/
theorem rewire_eq_ok_iff : d.rewire r = .ok d' ↔ d.steps? r.rewirings = some d' := by
  rw [steps?_rewirings]
  cases d.rewire r <;> simp [Except.toOption]

/-! ## What a new process ends with -/

theorem get?_close?_of_not_mem {fd : Nat} (h : fd ∉ fd?.toList) :
    (d.close? fd?).get? fd = d.get? fd := by
  rcases fd? with _ | other
  · rfl
  · exact d.get?_close_ne (by simpa using h)

theorem get?_close?_of_mem {fd : Nat} (h : fd ∈ fd?.toList) : (d.close? fd?).get? fd = none := by
  obtain rfl : fd? = some fd := by simpa using h
  exact d.get?_close_self fd

/-- What moving a descriptor, if there is one, does to a table. -/
structure Moved (d : Descriptors α) (fd? : Option Nat) (target : Nat) (d' : Descriptors α) :
    Prop where
  placed : ∀ fd, fd? = some fd → d'.get? target = d.get? fd
  closed : ∀ fd, fd? = some fd → fd ≠ target → d'.get? fd = none
  kept : ∀ fd, (fd ≠ target ∨ fd? = none) → fd? ≠ some fd → d'.get? fd = d.get? fd

/-- A descriptor that is open can be moved, and one that is not there need not be. -/
theorem exists_move (d : Descriptors α) (fd? : Option Nat) (target : Nat)
    (hopen : ∀ fd, fd? = some fd → d.isOpen fd = true) :
    ∃ d', d.move? fd? target = .ok d' ∧ Moved d fd? target d' := by
  rcases fd? with _ | fd
  · exact ⟨d, rfl, by simp, by simp, fun _ _ _ => rfl⟩
  · by_cases hthere : fd = target
    · refine ⟨d, ?_, ?_, ?_, fun _ _ _ => rfl⟩
      · simp [move?, move, hthere]
      · rintro _ ⟨⟩
        rw [hthere]
      · rintro _ ⟨⟩ hne
        exact absurd hthere hne
    · obtain ⟨a, ha⟩ := Option.isSome_iff_exists.mp (hopen fd rfl)
      refine ⟨(d.put target a).close fd, ?_, ?_, ?_, ?_⟩
      · simp only [move?, move, if_neg hthere, duplicate?, ha, Option.map_some]
      · rintro _ ⟨⟩
        rw [get?_close_ne _ (Ne.symm hthere), get?_put_self, ha]
      · rintro _ ⟨⟩ -
        exact get?_close_self _ _
      · intro other hother hne
        have hsource : other ≠ fd := fun h => hne (congrArg some h.symm)
        have htarget : other ≠ target := hother.resolve_right (Option.some_ne_none fd)
        rw [get?_close_ne _ hsource, get?_put_ne _ _ htarget]

theorem mem_descriptors {fd : Nat} : fd ∈ r.descriptors ↔
    r.wiring.stdin.descriptor? = some fd ∨ r.wiring.stdout.descriptor? = some fd ∨
      r.downstream = some fd := by
  simp [Resolved.descriptors, Wiring.descriptors]

theorem ne_of_nodup (hnodup : r.descriptors.Nodup) (fd : Nat) :
    (r.wiring.stdin.descriptor? = some fd → r.wiring.stdout.descriptor? ≠ some fd) ∧
      (r.downstream = some fd →
        r.wiring.stdin.descriptor? ≠ some fd ∧ r.wiring.stdout.descriptor? ≠ some fd) := by
  obtain ⟨hboth, -, hdown⟩ := List.nodup_append'.mp hnodup
  obtain ⟨-, -, hdisjoint⟩ := List.nodup_append'.mp hboth
  constructor
  · intro hin hout
    exact hdisjoint (Option.mem_toList.mpr hin) (Option.mem_toList.mpr hout)
  · intro hread
    constructor
    · intro hin
      exact hdown (List.mem_append_left _ (Option.mem_toList.mpr hin)) (Option.mem_toList.mpr hread)
    · intro hout
      exact hdown (List.mem_append_right _ (Option.mem_toList.mpr hout))
        (Option.mem_toList.mpr hread)

/-- The two moves that make the table of a new process from that of the shell, one after the
other. -/
structure Moves (d : Descriptors α) (r : Resolved) (d₁ d' : Descriptors α) : Prop where
  first : Moved (d.close? r.downstream) r.wiring.stdin.descriptor? standardInput d₁
  last : Moved d₁ r.wiring.stdout.descriptor? standardOutput d'

/-- If what a process is connected to is open, under different numbers, then both of its
connections are moved, whatever the numbers are. -/
theorem exists_moves (hnodup : r.descriptors.Nodup)
    (hopen : ∀ fd ∈ r.descriptors, d.isOpen fd = true) :
    ∃ d₁ d', d.rewire r = .ok d' ∧ Moves d r d₁ d' := by
  have hdropped : ∀ fd, r.wiring.stdin.descriptor? = some fd ∨
      r.wiring.stdout.descriptor? = some fd → (d.close? r.downstream).isOpen fd = true := by
    intro fd hfd
    have hstays : fd ∉ r.downstream.toList := by
      intro hread
      obtain ⟨hin, hout⟩ := (ne_of_nodup hnodup fd).2 (Option.mem_toList.mp hread)
      exact hfd.elim hin hout
    rw [isOpen, get?_close?_of_not_mem hstays]
    exact hopen fd (mem_descriptors.mpr (hfd.imp_right Or.inl))
  obtain ⟨d₁, hfirst, hmoved⟩ := exists_move (d.close? r.downstream) r.wiring.stdin.descriptor?
    standardInput fun fd hin => hdropped fd (Or.inl hin)
  -- the output is open still: either the input has gone over it, or it is where it was
  have hwritten : ∀ fd, r.wiring.stdout.descriptor? = some fd → d₁.isOpen fd = true := by
    intro fd hout
    by_cases hplace : fd ≠ standardInput ∨ r.wiring.stdin.descriptor? = none
    · rw [isOpen, hmoved.kept fd hplace fun hin => (ne_of_nodup hnodup fd).1 hin hout]
      exact hdropped fd (Or.inr hout)
    · obtain ⟨hzero, hsome⟩ := not_or.mp hplace
      obtain ⟨other, hin⟩ := Option.ne_none_iff_exists'.mp hsome
      rw [not_not.mp hzero, isOpen, hmoved.placed other hin]
      exact hdropped other (Or.inl hin)
  obtain ⟨d₂, hsecond, hlast⟩ :=
    exists_move d₁ r.wiring.stdout.descriptor? standardOutput hwritten
  refine ⟨d₁, d₂, ?_, hmoved, hlast⟩
  rw [rewire, hfirst]
  exact hsecond

namespace Moves

variable {d₁ : Descriptors α} {fd : Nat}

theorem first_eq (h : Moves d r d₁ d') (hnodup : r.descriptors.Nodup)
    (hin : r.wiring.stdin.descriptor? = some fd) : d₁.get? standardInput = d.get? fd := by
  have hdropped : fd ∉ r.downstream.toList := fun hread =>
    ((ne_of_nodup hnodup fd).2 (Option.mem_toList.mp hread)).1 hin
  rw [h.first.placed fd hin, get?_close?_of_not_mem hdropped]

/-- The input stays there unless the output is moved from there. -/
theorem input_eq (h : Moves d r d₁ d') (hnodup : r.descriptors.Nodup)
    (hin : r.wiring.stdin.descriptor? = some fd)
    (hstays : r.wiring.stdout.descriptor? ≠ some standardInput) :
    d'.get? standardInput = d.get? fd := by
  rw [h.last.kept _ (Or.inl (by decide)) hstays, h.first_eq hnodup hin]

/-- The output is moved unless the input has gone over it. -/
theorem output_eq (h : Moves d r d₁ d') (hnodup : r.descriptors.Nodup)
    (hout : r.wiring.stdout.descriptor? = some fd)
    (hplace : fd ≠ standardInput ∨ r.wiring.stdin.descriptor? = none) :
    d'.get? standardOutput = d.get? fd := by
  have hdropped : fd ∉ r.downstream.toList := fun hread =>
    ((ne_of_nodup hnodup fd).2 (Option.mem_toList.mp hread)).2 hout
  rw [h.last.placed fd hout, h.first.kept fd hplace fun hin => (ne_of_nodup hnodup fd).1 hin hout,
    get?_close?_of_not_mem hdropped]

theorem get?_eq_none (h : Moves d r d₁ d') (hnodup : r.descriptors.Nodup)
    (hfd : fd ∈ r.descriptors) (hzero : fd ≠ standardInput) (hone : fd ≠ standardOutput) :
    d'.get? fd = none := by
  rcases mem_descriptors.mp hfd with hin | hout | hread
  · rw [h.last.kept fd (Or.inl hone) ((ne_of_nodup hnodup fd).1 hin)]
    exact h.first.closed fd hin hzero
  · exact h.last.closed fd hout hone
  · obtain ⟨hin, hout⟩ := (ne_of_nodup hnodup fd).2 hread
    rw [h.last.kept fd (Or.inl hone) hout, h.first.kept fd (Or.inl hzero) hin]
    exact get?_close?_of_mem (Option.mem_toList.mpr hread)

/-- The moves touch nothing but the descriptors of the stage and the numbers that they are moved
to. -/
theorem get?_eq (h : Moves d r d₁ d') (hfd : fd ∉ r.descriptors)
    (hzero : fd ≠ standardInput ∨ r.wiring.stdin.descriptor? = none)
    (hone : fd ≠ standardOutput ∨ r.wiring.stdout.descriptor? = none) :
    d'.get? fd = d.get? fd := by
  simp only [mem_descriptors, not_or] at hfd
  obtain ⟨hin, hout, hread⟩ := hfd
  rw [h.last.kept fd hone hout, h.first.kept fd hzero hin,
    get?_close?_of_not_mem fun hmem => hread (Option.mem_toList.mp hmem)]

end Moves

/-- What a new process that is connected in some way ends with, from the table of the shell. -/
structure Rewired (d : Descriptors α) (r : Resolved) (d' : Descriptors α) : Prop where
  input : d'.get? standardInput = d.get? (r.wiring.stdin.descriptor?.getD standardInput)
  output : d'.get? standardOutput = d.get? (r.wiring.stdout.descriptor?.getD standardOutput)
  closed : ∀ fd ∈ r.descriptors, d'.get? fd = none
  kept : ∀ fd, fd ≠ standardInput → fd ≠ standardOutput → fd ∉ r.descriptors →
    d'.get? fd = d.get? fd

/-- If what a stage is connected to is open, under different numbers that are not those of the
standard streams, then all requests succeed. -/
theorem exists_rewired (hnodup : r.descriptors.Nodup)
    (hopen : ∀ fd ∈ r.descriptors, d.isOpen fd = true)
    (hinput : standardInput ∉ r.descriptors) (houtput : standardOutput ∉ r.descriptors) :
    ∃ d', d.steps? r.rewirings = some d' ∧ Rewired d r d' := by
  obtain ⟨d₁, d', hrewire, hmoves⟩ := exists_moves hnodup hopen
  have hzero : ∀ fd ∈ r.descriptors, fd ≠ standardInput := fun _ hfd h => hinput (h ▸ hfd)
  have hone : ∀ fd ∈ r.descriptors, fd ≠ standardOutput := fun _ hfd h => houtput (h ▸ hfd)
  refine ⟨d', rewire_eq_ok_iff.mp hrewire, ?_, ?_, ?_, ?_⟩
  · rcases hin : r.wiring.stdin.descriptor? with _ | fd
    · exact hmoves.get?_eq hinput (Or.inr hin) (Or.inl (by decide))
    · exact hmoves.input_eq hnodup hin fun hout =>
        hinput (mem_descriptors.mpr (Or.inr (Or.inl hout)))
  · rcases hout : r.wiring.stdout.descriptor? with _ | fd
    · exact hmoves.get?_eq houtput (Or.inl (by decide)) (Or.inr hout)
    · exact hmoves.output_eq hnodup hout
        (Or.inl (hzero fd (mem_descriptors.mpr (Or.inr (Or.inl hout)))))
  · exact fun fd hfd => hmoves.get?_eq_none hnodup hfd (hzero fd hfd) (hone fd hfd)
  · exact fun fd hin hout hfd => hmoves.get?_eq hfd (Or.inl hin) (Or.inl hout)

end Descriptors

end ShellPipeline
