import ShellPipeline.Proofs.Run.Referents

/-!
# What a new process ends with

When its program begins, the process of a wired stage has its file or its ends of pipes as standard
streams. Whatever else it has open, the shell had open before the run. This takes that the shell has
standard streams, so that nothing that it opens is given their numbers.
-/

namespace ShellPipeline

variable {α η : Type} {events : List (Event α η)} {e : Event α η} {stages : List Stage}
  {launch : Launch α} {base : Descriptors α} {k fd : Nat} {o : Referent}

/-- What the descriptors of a new process stand for when its program begins, after the events of
the run before it was created. -/
structure Outfit (stages : List Stage) (before : List (Event α η)) (launch : Launch α)
    (table : Descriptors Referent) : Prop where
  file : ∀ path, launch.stage.input = some path →
    ∃ k fd, before[k]? = some (.openInput path (.ok fd)) ∧
      table.get? standardInput = some (.file k)
  first : launch.stage.input = none → launch.index = 0 →
    table.get? standardInput = some (.inherited standardInput)
  later : launch.stage.input = none → ∀ i, launch.index = i + 1 →
    ∃ k readEnd writeEnd, before[k]? = some (.makePipe i (.ok (readEnd, writeEnd))) ∧
      table.get? standardInput = some (.readEnd k)
  piped : launch.index + 1 < stages.length →
    ∃ k readEnd writeEnd, before[k]? = some (.makePipe launch.index (.ok (readEnd, writeEnd))) ∧
      table.get? standardOutput = some (.writeEnd k)
  last : launch.index + 1 = stages.length →
    launch.stage.output = .inherit ∧
        table.get? standardOutput = some (.inherited standardOutput) ∨
      ∃ mode path k fd, launch.stage.output = .file mode path ∧
        before[k]? = some (.openOutput mode path (.ok fd)) ∧
        table.get? standardOutput = some (.file k)
  others : ∀ fd o, fd ≠ standardInput → fd ≠ standardOutput → table.get? fd = some o →
    o = .inherited fd

/-- What the shell is like when it asks for a process, after the events of a run before. -/
structure Poised (base : Descriptors α) (before : List (Event α η)) (launch : Launch α) :
    Prop where
  nodup : launch.resolved.descriptors.Nodup
  fresh : ∀ fd ∈ launch.resolved.descriptors, base.get? fd = none
  isOpen : ∀ fd, (referents base before).isOpen fd = true ↔
    base.isOpen fd = true ∨ fd ∈ launch.resolved.descriptors
  live_eq : live before = launch.resolved.descriptors.toFinset
  ends_ne : ∀ i readEnd writeEnd, .makePipe i (.ok (readEnd, writeEnd)) ∈ before →
    readEnd ≠ writeEnd

/-- A descriptor stands for what the event opened that opened it last. -/
theorem OpenSince.referent_eq (h : OpenSince events k e fd) (hnames : e.Names k fd o)
    (hends : ∀ i readEnd writeEnd, e = .makePipe i (.ok (readEnd, writeEnd)) → readEnd ≠ writeEnd) :
    (referents base events).get? fd = some o := by
  obtain ⟨o', ho', hnames'⟩ := h.get?_referents base
  rw [ho']
  cases hnames with
  | input => cases hnames'; rfl
  | output => cases hnames'; rfl
  | readEnd i _ w =>
      cases hnames' with
      | readEnd => rfl
      | writeEnd => exact absurd rfl (hends i fd fd rfl)
  | writeEnd i r _ =>
      cases hnames' with
      | readEnd => exact absurd rfl (hends i fd fd rfl)
      | writeEnd => rfl

section Connections

variable {before : List (Event α η)} {table : Descriptors Referent}

theorem Poised.eq_inherited (h : Poised base before launch)
    (hfd : fd ∉ launch.resolved.descriptors) (ho : (referents base before).get? fd = some o) :
    o = .inherited fd := by
  rcases get?_referents_eq_some ho with rfl | ⟨k, e, hsince, -⟩
  · rfl
  · have hlive := hsince.mem_live
    rw [h.live_eq, List.mem_toFinset] at hlive
    exact absurd hlive hfd

/-- What the shell had open at first is not given to a process, and stays what it is. -/
theorem Poised.inherited (h : Poised base before launch) (hfd : base.isOpen fd = true) :
    fd ∉ launch.resolved.descriptors ∧
      (referents base before).get? fd = some (.inherited fd) := by
  have hnot : fd ∉ launch.resolved.descriptors := by
    intro hmem
    rw [Descriptors.isOpen, h.fresh fd hmem] at hfd
    cases hfd
  obtain ⟨o, ho⟩ := Option.isSome_iff_exists.mp ((h.isOpen fd).mpr (Or.inl hfd))
  exact ⟨hnot, by rw [ho, h.eq_inherited hnot ho]⟩

theorem Poised.referent_eq (h : Poised base before launch) (hsince : OpenSince before k e fd)
    (hnames : e.Names k fd o) : (referents base before).get? fd = some o := by
  refine hsince.referent_eq hnames ?_
  rintro i r w rfl
  exact h.ends_ne i r w (List.mem_of_getElem? hsince.here)

/-- A new process of a wired stage ends with the ends of pipes that its stage is wired to, and with
no others. -/
theorem Wired.outfit (h : Wired stages before launch) (hp : Poised base before launch)
    (hin : base.isOpen standardInput = true) (hout : base.isOpen standardOutput = true)
    (ht : (referents base before).Rewired launch.resolved table) :
    Outfit stages before launch table where
  file path hpath := by
    obtain ⟨k, fd, hopen, hstdin⟩ := h.input path hpath
    rw [ht.input, hstdin]
    exact ⟨k, fd, hopen.here, hp.referent_eq hopen.toOpenSince (.input path fd)⟩
  first hnone hindex := by
    rw [ht.input, h.first hnone hindex]
    exact (hp.inherited hin).2
  later hnone i hindex := by
    obtain ⟨r, ⟨k, w, -, -, -, hopen, -⟩, hstdin⟩ := h.later hnone i hindex
    rw [ht.input, hstdin]
    exact ⟨k, r, w, hopen.here, hp.referent_eq hopen (.readEnd i r w)⟩
  piped hlt := by
    obtain ⟨k, r, w, -, hopen, hstdout, -⟩ := h.piped hlt
    rw [ht.output, hstdout]
    exact ⟨k, r, w, hopen.here, hp.referent_eq hopen.toOpenSince (.writeEnd _ r w)⟩
  last hlast := by
    obtain ⟨-, ⟨hinherit, hstdout⟩ | ⟨mode, path, k, fd, hfile, hopen, hstdout⟩⟩ := h.last hlast
    · rw [ht.output, hstdout]
      exact Or.inl ⟨hinherit, (hp.inherited hout).2⟩
    · rw [ht.output, hstdout]
      exact Or.inr ⟨mode, path, k, fd, hfile, hopen.here,
        hp.referent_eq hopen.toOpenSince (.output mode path fd)⟩
  others fd o hinput houtput ho := by
    by_cases hfd : fd ∈ launch.resolved.descriptors
    · rw [ht.closed fd hfd] at ho
      cases ho
    · rw [ht.kept fd hinput houtput hfd] at ho
      exact hp.eq_inherited hfd ho

theorem Outfit.input_cases (h : Outfit stages before launch table) :
    table.get? standardInput = some (.inherited standardInput) ∨
      (∃ k, table.get? standardInput = some (.file k)) ∨
      ∃ k i readEnd writeEnd, launch.index = i + 1 ∧ launch.stage.input = none ∧
        before[k]? = some (.makePipe i (.ok (readEnd, writeEnd))) ∧
        table.get? standardInput = some (.readEnd k) := by
  rcases hinput : launch.stage.input with _ | path
  · rcases hindex : launch.index with _ | i
    · exact Or.inl (h.first hinput hindex)
    · obtain ⟨k, r, w, hk, hread⟩ := h.later hinput i hindex
      exact Or.inr (Or.inr ⟨k, i, r, w, rfl, rfl, hk, hread⟩)
  · obtain ⟨k, fd, -, hread⟩ := h.file path hinput
    exact Or.inr (Or.inl ⟨k, hread⟩)

theorem Outfit.output_cases (h : Outfit stages before launch table)
    (hstage : stages[launch.index]? = some launch.stage) :
    table.get? standardOutput = some (.inherited standardOutput) ∨
      (∃ k, table.get? standardOutput = some (.file k)) ∨
      ∃ k readEnd writeEnd,
        before[k]? = some (.makePipe launch.index (.ok (readEnd, writeEnd))) ∧
        table.get? standardOutput = some (.writeEnd k) := by
  have hlt := (List.getElem?_eq_some_iff.mp hstage).1
  rcases Nat.lt_or_eq_of_le (Nat.succ_le_of_lt hlt) with hbefore | hlast
  · exact Or.inr (Or.inr (h.piped hbefore))
  · rcases h.last hlast with ⟨-, hkept⟩ | ⟨mode, path, k, fd, -, -, hfile⟩
    · exact Or.inl hkept
    · exact Or.inr (Or.inl ⟨k, hfile⟩)

/-- A program finds nothing new outside its standard streams. -/
theorem Outfit.eq_standard (h : Outfit stages before launch table)
    (ho : table.get? fd = some o) (hne : o ≠ .inherited fd) :
    fd = standardInput ∨ fd = standardOutput := by
  by_contra hfd
  obtain ⟨hinput, houtput⟩ := not_or.mp hfd
  exact hne (h.others fd o hinput houtput ho)

/-- A process whose shell has its own standard streams open gets its table without a refusal. -/
theorem Poised.exists_rewired (h : Poised base before launch)
    (hin : base.isOpen standardInput = true) (hout : base.isOpen standardOutput = true) :
    ∃ table, (referents base before).steps? launch.resolved.rewirings = some table ∧
      (referents base before).Rewired launch.resolved table :=
  Descriptors.exists_rewired h.nodup (fun fd hfd => (h.isOpen fd).mpr (Or.inr hfd))
    (h.inherited hin).1 (h.inherited hout).1

end Connections

namespace Shell

variable {σ : Type} [Host σ α η]

/-- Whenever a process is asked for, the shell is poised for it. -/
theorem poised_trace (s : Shell σ α η) (p : Pipeline) {j : Nat} {outcome : Except Fault η}
    (hj : (s.trace p)[j]? = some (.spawn launch outcome)) :
    Poised s.descriptors ((s.trace p).take j) launch := by
  obtain ⟨processes, incoming, t, u, hstarted, -, -, hr, hcopy, hu⟩ := attempted_trace s p j _ hj
  have haccounts := (Accounts.of_started hstarted).resolve launch.index launch.stage
  rw [hr] at haccounts
  obtain ⟨notes, hnotes, hledger⟩ := haccounts.ledger
  obtain rfl : (s.trace p).take j = notes := List.append_cancel_left (hu.symm.trans hnotes)
  obtain ⟨value, -, hdenotes⟩ := (follows_trace s p).exists_value
  refine ⟨haccounts.nodup, haccounts.fresh, fun fd => ?_, hledger.live_eq, fun i r w hmem => ?_⟩
  · rw [(hdenotes j launch outcome hj).isOpen_eq, hcopy]
    exact haccounts.isOpen_iff fd
  · exact (follows_trace s p).ends_ne (List.mem_of_mem_take hmem)

end Shell

end ShellPipeline
