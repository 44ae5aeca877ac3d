import ShellPipeline.Proofs.Run.Phases

/-!
# Stages that could be connected

What it takes for a request of the shell to succeed, and what the shell is like then. A stage that
could be connected reads its input file, the pipe it was handed, or what the shell reads, in this
order, and writes where it says. A stage that could not be connected failed at one request.
-/

namespace ShellPipeline

/-- All stages but the last write into a pipe. -/
theorem WellWired.output_eq_pipe {stages : List Stage} (h : WellWired stages) {i : Nat}
    {stage : Stage} (hi : stages[i]? = some stage) (hlt : i + 1 < stages.length) :
    stage.output = .pipe := by
  fun_induction WellWired stages generalizing i with
  | case1 => cases h
  | case2 s => simp at hlt
  | case3 s t r ih =>
      cases i with
      | zero =>
          cases hi
          exact h.1.2
      | succ i => exact ih h.2 hi (by simpa using hlt)

theorem WellWired.output_ne_pipe {stages : List Stage} (h : WellWired stages) {i : Nat}
    {stage : Stage} (hi : stages[i]? = some stage) (hlast : i + 1 = stages.length) :
    stage.output ≠ .pipe := by
  fun_induction WellWired stages generalizing i with
  | case1 => cases h
  | case2 s =>
      obtain rfl : i = 0 := by simpa using hlast
      cases hi
      exact h.2
  | case3 s t r ih =>
      cases i with
      | zero => simp at hlast
      | succ i => exact ih h.2 hi (by simpa using hlast)

namespace Shell

variable {σ α η : Type} [Host σ α η] {s t : Shell σ α η} {path : String} {mode : WriteMode}
  {index fd readEnd writeEnd : Nat} {stage : Stage} {incoming : Option Nat}

theorem host_openInput (s : Shell σ α η) (path : String) :
    (s.openInput path).2.host = (Host.openInput path s.host).2 := by
  unfold openInput
  rcases Host.openInput path s.host with ⟨e | a, host⟩ <;> rfl

theorem openInput_eq_ok (h : s.openInput path = (.ok fd, t)) :
    ∃ a host, Host.openInput path s.host = (.ok a, host) ∧ fd = (s.descriptors.add a).1 ∧
      t = ⟨(s.descriptors.add a).2, host, s.events ++ [.openInput path (.ok fd)]⟩ := by
  unfold openInput at h
  rcases ho : Host.openInput path s.host with ⟨e | a, host⟩ <;> rw [ho] at h
  · cases h
  · cases h
    exact ⟨a, host, rfl, rfl, rfl⟩

theorem openOutput_eq_ok (h : s.openOutput mode path = (.ok fd, t)) :
    ∃ a host, Host.openOutput mode path s.host = (.ok a, host) ∧ fd = (s.descriptors.add a).1 ∧
      t = ⟨(s.descriptors.add a).2, host, s.events ++ [.openOutput mode path (.ok fd)]⟩ := by
  unfold openOutput at h
  rcases ho : Host.openOutput mode path s.host with ⟨e | a, host⟩ <;> rw [ho] at h
  · cases h
  · cases h
    exact ⟨a, host, rfl, rfl, rfl⟩

theorem openOutput_eq_error {e : PathFault} (h : s.openOutput mode path = (.error e, t)) :
    Host.openOutput mode path s.host = (.error e, t.host) := by
  unfold openOutput at h
  rcases ho : Host.openOutput mode path s.host with ⟨e' | a, host⟩ <;> rw [ho] at h <;> cases h
  rfl

theorem protectBoth_eq_ok {r w : α} (h : s.protectBoth r w = (.ok (), t)) :
    ∃ host host', Host.protect r s.host = (.ok (), host) ∧ Host.protect w host = (.ok (), host') ∧
      t = { s with host := host' } := by
  unfold protectBoth at h
  rcases hr : Host.protect r s.host with ⟨e | _, host⟩ <;> rw [hr] at h
  · cases h
  · rcases hw : Host.protect w host with ⟨e | _, host'⟩ <;> simp only [hw] at h <;> cases h
    exact ⟨host, host', rfl, hw, rfl⟩

/-- A pipe that was made has two new descriptors, and both ends are kept from programs. -/
theorem makePipe_eq_ok (h : s.makePipe index = (.ok (readEnd, writeEnd), t)) :
    ∃ r w made host host', Host.makePipe s.host = (.ok (r, w), made) ∧
      Host.protect r made = (.ok (), host) ∧ Host.protect w host = (.ok (), host') ∧
      readEnd = (s.descriptors.add r).1 ∧ writeEnd = ((s.descriptors.add r).2.add w).1 ∧
      t = ⟨((s.descriptors.add r).2.add w).2, host',
        s.events ++ [.makePipe index (.ok (readEnd, writeEnd))]⟩ := by
  unfold makePipe at h
  rcases hm : Host.makePipe s.host with ⟨e | ⟨r, w⟩, made⟩ <;> rw [hm] at h
  · cases h
  · dsimp only at h
    split at h
    · cases h
    · next u hp =>
      cases h
      obtain ⟨host, host', hr, hw, rfl⟩ := protectBoth_eq_ok hp
      exact ⟨r, w, made, host, host', rfl, hr, hw, rfl, rfl, rfl⟩

theorem resolveInput_eq_ok {c : Connection} (h : s.resolveInput stage incoming = (.ok c, t)) :
    (∃ path fd, stage.input = some path ∧
        (s.closeAll incoming.toList).openInput path = (.ok fd, t) ∧ c = .file fd) ∨
      (∃ fd, stage.input = none ∧ incoming = some fd ∧ t = s ∧ c = .pipe fd) ∨
      (stage.input = none ∧ incoming = none ∧ t = s ∧ c = .inherit) := by
  unfold resolveInput at h
  rcases hi : stage.input with _ | path
  · rcases incoming with _ | fd <;> simp only [hi] at h <;> cases h
    · exact Or.inr (Or.inr ⟨rfl, rfl, rfl, rfl⟩)
    · exact Or.inr (Or.inl ⟨fd, rfl, rfl, rfl, rfl⟩)
  · simp only [hi] at h
    rcases ho : (s.closeAll incoming.toList).openInput path with ⟨e | fd, u⟩ <;>
      rw [ho] at h <;> cases h
    exact Or.inl ⟨path, fd, rfl, ho, rfl⟩

theorem resolveOutput_eq_ok {c : Connection} {downstream : Option Nat}
    (h : s.resolveOutput index stage = (.ok (c, downstream), t)) :
    (stage.output = .inherit ∧ t = s ∧ c = .inherit ∧ downstream = none) ∨
      (∃ mode path fd, stage.output = .file mode path ∧ s.openOutput mode path = (.ok fd, t) ∧
        c = .file fd ∧ downstream = none) ∨
      (∃ readEnd writeEnd, stage.output = .pipe ∧
        s.makePipe index = (.ok (readEnd, writeEnd), t) ∧ c = .pipe writeEnd ∧
        downstream = some readEnd) := by
  unfold resolveOutput at h
  rcases ho : stage.output with _ | _ | ⟨mode, path⟩ <;> simp only [ho] at h
  · cases h
    exact Or.inl ⟨rfl, rfl, rfl, rfl⟩
  · rcases hp : s.makePipe index with ⟨e | ⟨readEnd, writeEnd⟩, u⟩ <;> rw [hp] at h <;> cases h
    exact Or.inr (Or.inr ⟨readEnd, writeEnd, rfl, rfl, rfl, rfl⟩)
  · rcases hp : s.openOutput mode path with ⟨e | fd, u⟩ <;> rw [hp] at h <;> cases h
    exact Or.inr (Or.inl ⟨mode, path, fd, rfl, hp, rfl, rfl⟩)

/-- A stage is connected if its input could be connected and then its output. -/
theorem resolve_eq_ok {r : Resolved} (h : s.resolve index stage incoming = (.ok r, t)) :
    ∃ u, s.resolveInput stage incoming = (.ok r.wiring.stdin, u) ∧
      u.resolveOutput index stage = (.ok (r.wiring.stdout, r.downstream), t) := by
  unfold resolve at h
  rcases hi : s.resolveInput stage incoming with ⟨f | stdin, u⟩ <;> rw [hi] at h
  · cases h
  · dsimp only at h
    rcases ho : u.resolveOutput index stage with ⟨f | ⟨stdout, downstream⟩, v⟩ <;> rw [ho] at h
    · cases h
    · cases h
      exact ⟨u, rfl, ho⟩

theorem resolveInput_eq_error {f : Fault} (h : s.resolveInput stage incoming = (.error f, t)) :
    ∃ path e, stage.input = some path ∧
      (s.closeAll incoming.toList).openInput path = (.error e, t) ∧ f = .openInput path e := by
  unfold resolveInput at h
  rcases hi : stage.input with _ | path
  · rcases incoming with _ | fd <;> simp only [hi] at h <;> cases h
  · simp only [hi] at h
    rcases ho : (s.closeAll incoming.toList).openInput path with ⟨e | fd, u⟩ <;>
      rw [ho] at h <;> cases h
    exact ⟨path, e, rfl, ho, rfl⟩

theorem resolveOutput_eq_error {f : Fault} (h : s.resolveOutput index stage = (.error f, t)) :
    (∃ mode path e, stage.output = .file mode path ∧ s.openOutput mode path = (.error e, t) ∧
        f = .openOutput path e) ∨
      ∃ e, stage.output = .pipe ∧ s.makePipe index = (.error e, t) ∧ f = .pipe index e := by
  unfold resolveOutput at h
  rcases ho : stage.output with _ | _ | ⟨mode, path⟩ <;> simp only [ho] at h
  · cases h
  · rcases hp : s.makePipe index with ⟨e | ⟨readEnd, writeEnd⟩, u⟩ <;> rw [hp] at h <;> cases h
    exact Or.inr ⟨e, rfl, rfl, rfl⟩
  · rcases hp : s.openOutput mode path with ⟨e | fd, u⟩ <;> rw [hp] at h <;> cases h
    exact Or.inl ⟨mode, path, e, rfl, hp, rfl⟩

/-- If the output cannot be connected the input is closed again. -/
theorem resolve_eq_error {f : Fault} (h : s.resolve index stage incoming = (.error f, t)) :
    s.resolveInput stage incoming = (.error f, t) ∨
      ∃ c u v, s.resolveInput stage incoming = (.ok c, u) ∧
        u.resolveOutput index stage = (.error f, v) ∧ t = v.closeAll c.descriptor?.toList := by
  unfold resolve at h
  rcases hi : s.resolveInput stage incoming with ⟨f' | c, u⟩ <;> rw [hi] at h
  · cases h
    exact Or.inl rfl
  · dsimp only at h
    rcases ho : u.resolveOutput index stage with ⟨f' | ⟨stdout, downstream⟩, v⟩ <;> rw [ho] at h
    · cases h
      exact Or.inr ⟨c, u, v, rfl, ho, rfl⟩
    · cases h

theorem spawn_eq_ok {r : Resolved} {process : η} (h : s.spawn index stage r = (.ok process, t)) :
    ∃ host, Host.spawn ⟨index, stage, r, s.descriptors⟩ s.host = (.ok process, host) ∧
      t = ({ s with host }.note (s.attempt index stage r (.ok process))).closeAll
        r.wiring.descriptors := by
  unfold spawn at h
  dsimp only at h
  rcases hs : Host.spawn ⟨index, stage, r, s.descriptors⟩ s.host with ⟨outcome, host⟩
  rw [hs] at h
  cases h
  exact ⟨host, rfl, rfl⟩

/-! ## Closing what a stage was connected to -/

theorem closeAll_append (s : Shell σ α η) (fds fds' : List Nat) :
    s.closeAll (fds ++ fds') = (s.closeAll fds).closeAll fds' :=
  List.foldl_append

theorem get?_closeAll {fds : List Nat} (hfd : fd ∉ fds) :
    (s.closeAll fds).descriptors.get? fd = s.descriptors.get? fd := by
  induction fds generalizing s with
  | nil => rfl
  | cons other fds ih =>
      obtain ⟨hne, hmem⟩ := not_or.mp (mt List.mem_cons.mpr hfd)
      exact (ih hmem).trans (s.descriptors.get?_close_ne hne)

theorem get?_closeAll_of_mem {fds : List Nat} (hfd : fd ∈ fds) :
    (s.closeAll fds).descriptors.get? fd = none := by
  induction fds generalizing s with
  | nil => cases hfd
  | cons other fds ih =>
      by_cases hmem : fd ∈ fds
      · exact ih hmem
      · obtain rfl : fd = other := (List.mem_cons.mp hfd).resolve_right hmem
        exact (get?_closeAll hmem).trans (s.descriptors.get?_close_self fd)

theorem get?_closeAll_eq (s : Shell σ α η) (fds : List Nat) (fd : Nat) :
    (s.closeAll fds).descriptors.get? fd =
      if fd ∈ fds then none else s.descriptors.get? fd := by
  split_ifs with hfd
  · exact get?_closeAll_of_mem hfd
  · exact get?_closeAll hfd

theorem host_close {a : α} (h : s.descriptors.get? fd = some a) :
    (s.close fd).host = Host.release a s.host := by
  simp [close, note, h]

end Shell

end ShellPipeline
