import ShellPipeline.Proofs.Run.Sandbox
import ShellPipeline.Proofs.Child.Rewire
import ShellPipeline.Run.Pipeline

/-!
# Connections that already have the numbers of standard streams

A shell that has its own standard input or output closed gets the numbers of the standard streams
for what it opens. A new process moves its connections one after the other, the input first, and
what it moves goes over whatever had the number before. All goes well unless the input is replaced
while the output waits under the number of the standard input: then the output is lost, the process
writes into what it was to read, and it has no standard input.
-/

namespace ShellPipeline

namespace Descriptors

variable {α : Type} {d : Descriptors α} {r : Resolved}

/-- What a new process is to end with: its connections are its standard streams, it has nothing
else that it was given, and all other descriptors are as they were. -/
structure Seated (d : Descriptors α) (r : Resolved) (d' : Descriptors α) : Prop where
  input : ∀ fd, r.wiring.stdin.descriptor? = some fd →
    d'.isOpen standardInput = true ∧ d'.get? standardInput = d.get? fd
  output : ∀ fd, r.wiring.stdout.descriptor? = some fd →
    d'.isOpen standardOutput = true ∧ d'.get? standardOutput = d.get? fd
  closed : ∀ fd ∈ r.descriptors, 2 ≤ fd → d'.isOpen fd = false
  kept : ∀ fd, fd ≠ standardInput → fd ≠ standardOutput → fd ∉ r.descriptors →
    d'.get? fd = d.get? fd

/-- The input is replaced while the output waits under the number of the standard input. -/
def Crosses (r : Resolved) : Prop :=
  r.wiring.stdin.descriptor? ≠ none ∧ r.wiring.stdout.descriptor? = some standardInput

/-- Unless they cross, the connections of a process become its standard streams. -/
theorem exists_seated (hnodup : r.descriptors.Nodup)
    (hopen : ∀ fd ∈ r.descriptors, d.isOpen fd = true) (hcross : ¬ Crosses r) :
    ∃ d', d.rewire r = .ok d' ∧ Seated d r d' := by
  obtain ⟨d₁, d', hrewire, hmoves⟩ := exists_moves hnodup hopen
  refine ⟨d', hrewire, ?_, ?_, ?_, ?_⟩
  · intro fd hin
    have hstays : r.wiring.stdout.descriptor? ≠ some standardInput := fun hout =>
      hcross ⟨by simp [hin], hout⟩
    rw [isOpen, hmoves.input_eq hnodup hin hstays]
    exact ⟨hopen fd (mem_descriptors.mpr (Or.inl hin)), rfl⟩
  · intro fd hout
    have hplace : fd ≠ standardInput ∨ r.wiring.stdin.descriptor? = none := by
      by_cases hzero : fd = standardInput
      · exact Or.inr (by_contra fun hin => hcross ⟨hin, hzero ▸ hout⟩)
      · exact Or.inl hzero
    rw [isOpen, hmoves.output_eq hnodup hout hplace]
    exact ⟨hopen fd (mem_descriptors.mpr (Or.inr (Or.inl hout))), rfl⟩
  · intro fd hfd htwo
    have hzero : fd ≠ standardInput := Nat.ne_of_gt (Nat.lt_of_lt_of_le Nat.zero_lt_two htwo)
    have hone : fd ≠ standardOutput := Nat.ne_of_gt htwo
    rw [isOpen, hmoves.get?_eq_none hnodup hfd hzero hone]
    rfl
  · exact fun fd hzero hone hfd => hmoves.get?_eq hfd (Or.inl hzero) (Or.inl hone)

/-- If the connections cross, all requests succeed, and the input ends as the standard output. -/
theorem exists_crossed (hnodup : r.descriptors.Nodup)
    (hopen : ∀ fd ∈ r.descriptors, d.isOpen fd = true) {fd : Nat}
    (hin : r.wiring.stdin.descriptor? = some fd)
    (hout : r.wiring.stdout.descriptor? = some standardInput) :
    ∃ d', d.rewire r = .ok d' ∧ d'.isOpen standardInput = false ∧
      d'.get? standardOutput = d.get? fd := by
  obtain ⟨d₁, d', hrewire, hmoves⟩ := exists_moves hnodup hopen
  refine ⟨d', hrewire, ?_, ?_⟩
  · rw [isOpen, hmoves.last.closed _ hout (by decide)]
    rfl
  · rw [hmoves.last.placed _ hout, hmoves.first_eq hnodup hin]

/-- If what a new process is connected to is open, under different numbers, then all requests
succeed. The process ends with what it is to have unless its input is replaced while its output
waits under the number of the standard input; then it ends without a standard input, and with the
input as its standard output. -/
theorem rewire_seats_iff (d : Descriptors α) (r : Resolved) (hnodup : r.descriptors.Nodup)
    (hopen : ∀ fd ∈ r.descriptors, d.isOpen fd = true) :
    ∃ d', d.rewire r = .ok d' ∧ (Seated d r d' ↔ ¬ Crosses r) ∧
      ∀ fd, r.wiring.stdin.descriptor? = some fd → Crosses r →
        d'.isOpen standardInput = false ∧ d'.get? standardOutput = d.get? fd := by
  by_cases hcross : Crosses r
  · obtain ⟨fd, hin⟩ := Option.ne_none_iff_exists'.mp hcross.1
    obtain ⟨d', hrewire, hclosed, hlost⟩ := exists_crossed hnodup hopen hin hcross.2
    refine ⟨d', hrewire, ?_, ?_⟩
    · refine iff_of_false (fun hseated => ?_) (not_not_intro hcross)
      have hopened := (hseated.input fd hin).1
      rw [hclosed] at hopened
      cases hopened
    · intro other hother _
      obtain rfl : fd = other := Option.some.inj (hin.symm.trans hother)
      exact ⟨hclosed, hlost⟩
  · obtain ⟨d', hrewire, hseated⟩ := exists_seated hnodup hopen hcross
    exact ⟨d', hrewire, iff_of_true hseated hcross, fun _ _ h => absurd h hcross⟩

/-- The input is there already and the output has the number of a standard stream as well. -/
theorem rewire_seats_iff_lowest :
    let d : Descriptors Char := ⟨[some 'a', some 'b', some 'c', some 'd']⟩
    let r : Resolved := ⟨⟨.file 0, .pipe 3⟩, some 1⟩
    r.descriptors.Nodup ∧ (∀ fd ∈ r.descriptors, d.isOpen fd = true) ∧
      ∃ d', d.rewire r = .ok d' ∧ (Seated d r d' ↔ ¬ Crosses r) ∧
        ∀ fd, r.wiring.stdin.descriptor? = some fd → Crosses r →
          d'.isOpen standardInput = false ∧ d'.get? standardOutput = d.get? fd :=
  ⟨by decide, by decide, rewire_seats_iff _ _ (by decide) (by decide)⟩

end Descriptors

namespace Shell

def relay : Pipeline where
  stages := [(Stage.ofArgv ["cat"]).withOutput .pipe, (Stage.ofArgv ["cat"]).withOutput .pipe,
    (Stage.ofArgv ["cat"]).withOutput (.file .truncate "new")]
  wellWired := by decide

def withoutInput : Shell Sandbox Channel Nat where
  descriptors := ⟨[none, some .output, some .errors]⟩
  host := { setting := { locate := fun _ => 0, programs := fun _ bytes => bytes }
            contents := fun _ => none }

/-- A shell without a standard input gives its third process an output under the number of the
standard input, beside an input that is a pipe, and the process does not end with what it is to
have. -/
theorem run_crosses :
    ∃ (l : Launch Channel) (outcome : Except Fault Nat),
      Event.spawn l outcome ∈ (withoutInput.run relay).2.events ∧
      l.resolved = ⟨⟨.pipe 3, .file 0⟩, none⟩ ∧ l.resolved.descriptors.Nodup ∧
      (∀ fd ∈ l.resolved.descriptors, l.descriptors.isOpen fd = true) ∧
      ∃ d', l.childDescriptors = .ok d' ∧ d'.get? standardInput = none ∧
        d'.get? standardOutput = l.descriptors.get? 3 ∧
        ¬ Descriptors.Seated l.descriptors l.resolved d' := by
  let l : Launch Channel :=
    { index := 2
      stage := (Stage.ofArgv ["cat"]).withOutput (.file .truncate "new")
      resolved := ⟨⟨.pipe 3, .file 0⟩, none⟩
      descriptors := ⟨[some (.file 0), some .output, some .errors, some (.reader 1), none]⟩ }
  have hspawned : (withoutInput.run relay).2.events[8]? = some (.spawn l (.ok 2)) := rfl
  refine ⟨l, .ok 2, List.mem_of_getElem? hspawned, rfl, by decide, by decide, ?_⟩
  refine ⟨⟨[none, some (.reader 1), some .errors, none, none]⟩, rfl, rfl, rfl, ?_⟩
  intro hseated
  have hopened := (hseated.input 3 rfl).1
  cases hopened

end Shell

end ShellPipeline
