import ShellPipeline.Proofs.Child.Rewire
import ShellPipeline.Proofs.Run.Steps
import ShellPipeline.Proofs.Run.Wiring

/-!
# What descriptors stand for

The objects of a host need not differ from each other, so what two descriptors stand for is told
apart by the events that opened them. The table of the shell is kept a second time, with such
referents in the place of objects; what every referent is, as an object of the host, is the same
throughout a run.
-/

namespace ShellPipeline

/-- What a descriptor stands for. -/
inductive Referent where
  /-- What the shell had open at first. -/
  | inherited (fd : Nat)
  /-- The file that the event at a position opened. -/
  | file (k : Nat)
  /-- The read end of the pipe that the event at a position made. -/
  | readEnd (k : Nat)
  /-- The write end of the pipe that the event at a position made. -/
  | writeEnd (k : Nat)
deriving DecidableEq, Repr

def Referent.Before (n : Nat) : Referent → Prop
  | inherited _ => True
  | file k => k < n
  | readEnd k => k < n
  | writeEnd k => k < n

theorem Referent.Before.mono {o : Referent} {n m : Nat} (h : o.Before n) (hle : n ≤ m) :
    o.Before m := by
  cases o with
  | inherited => trivial
  | file | readEnd | writeEnd => exact Nat.lt_of_lt_of_le h hle

instance (n : Nat) : (o : Referent) → Decidable (o.Before n)
  | .inherited _ => isTrue trivial
  | .file k => inferInstanceAs (Decidable (k < n))
  | .readEnd k => inferInstanceAs (Decidable (k < n))
  | .writeEnd k => inferInstanceAs (Decidable (k < n))

variable {α η : Type} {events : List (Event α η)} {e : Event α η} {k fd : Nat} {o : Referent}

def Descriptors.inherited (d : Descriptors α) : Descriptors Referent :=
  ⟨d.slots.mapIdx fun fd slot => slot.map fun _ => .inherited fd⟩

@[simp] theorem Descriptors.get?_inherited (d : Descriptors α) (fd : Nat) :
    d.inherited.get? fd = (d.get? fd).map fun _ => .inherited fd := by
  simp only [get?, inherited, List.getElem?_mapIdx]
  cases d.slots[fd]? <;> rfl

def Event.enter (k : Nat) (d : Descriptors Referent) : Event α η → Descriptors Referent
  | .openInput _ (.ok fd) => d.put fd (.file k)
  | .openOutput _ _ (.ok fd) => d.put fd (.file k)
  | .makePipe _ (.ok (readEnd, writeEnd)) =>
    (d.put readEnd (.readEnd k)).put writeEnd (.writeEnd k)
  | .close fd => d.close fd
  | _ => d

/-- The table of the shell after events. -/
def referents (base : Descriptors α) (events : List (Event α η)) : Descriptors Referent :=
  events.zipIdx.foldl (fun d q => q.1.enter q.2 d) base.inherited

@[simp] theorem referents_nil (base : Descriptors α) :
    referents base ([] : List (Event α η)) = base.inherited := rfl

@[simp] theorem referents_concat (base : Descriptors α) (events : List (Event α η))
    (e : Event α η) :
    referents base (events ++ [e]) = e.enter events.length (referents base events) := by
  simp [referents, List.zipIdx_append]

/-- What a descriptor stands for that the event at a position opens. -/
inductive Event.Names (k : Nat) : Event α η → Nat → Referent → Prop
  | input (path : String) (fd : Nat) : Names k (.openInput path (.ok fd)) fd (.file k)
  | output (mode : WriteMode) (path : String) (fd : Nat) :
      Names k (.openOutput mode path (.ok fd)) fd (.file k)
  | readEnd (i readEnd writeEnd : Nat) :
      Names k (.makePipe i (.ok (readEnd, writeEnd))) readEnd (.readEnd k)
  | writeEnd (i readEnd writeEnd : Nat) :
      Names k (.makePipe i (.ok (readEnd, writeEnd))) writeEnd (.writeEnd k)

theorem Event.Names.before (h : e.Names k fd o) : o.Before (k + 1) := by
  cases h <;> exact Nat.lt_succ_self k

namespace Event

variable (d : Descriptors Referent)

theorem closed_eq_nil (h : fd ∈ e.opened) : e.closed = [] := by
  cases e <;> first | rfl | cases h

theorem get?_enter_opened (h : fd ∈ e.opened) :
    ∃ o, (e.enter k d).get? fd = some o ∧ e.Names k fd o := by
  cases e with
  | openInput path outcome =>
      rcases outcome with f | other
      · cases h
      · obtain rfl : fd = other := by simpa [opened] using h
        exact ⟨_, d.get?_put_self _ _, .input path fd⟩
  | openOutput mode path outcome =>
      rcases outcome with f | other
      · cases h
      · obtain rfl : fd = other := by simpa [opened] using h
        exact ⟨_, d.get?_put_self _ _, .output mode path fd⟩
  | makePipe i outcome =>
      rcases outcome with f | ⟨r, w⟩
      · cases h
      · by_cases hw : fd = w
        · subst hw
          exact ⟨_, Descriptors.get?_put_self _ _ _, .writeEnd i r fd⟩
        · obtain rfl : fd = r := by simpa [opened, hw] using h
          refine ⟨.readEnd k, ?_, .readEnd i fd w⟩
          rw [enter, Descriptors.get?_put_ne _ _ hw, Descriptors.get?_put_self]
  | _ => cases h

theorem get?_enter_closed (h : fd ∈ e.closed) : (e.enter k d).get? fd = none := by
  cases e with
  | close other =>
      obtain rfl : fd = other := by simpa [closed] using h
      exact d.get?_close_self fd
  | _ => cases h

theorem get?_enter_untouched (hopened : fd ∉ e.opened) (hclosed : fd ∉ e.closed) :
    (e.enter k d).get? fd = d.get? fd := by
  cases e with
  | openInput path outcome =>
      rcases outcome with f | other
      · rfl
      · exact d.get?_put_ne _ (by simpa [opened] using hopened)
  | openOutput mode path outcome =>
      rcases outcome with f | other
      · rfl
      · exact d.get?_put_ne _ (by simpa [opened] using hopened)
  | makePipe i outcome =>
      rcases outcome with f | ⟨r, w⟩
      · rfl
      · obtain ⟨hr, hw⟩ : fd ≠ r ∧ fd ≠ w := by simpa [opened] using hopened
        rw [enter, Descriptors.get?_put_ne _ _ hw, Descriptors.get?_put_ne _ _ hr]
  | close other => exact d.get?_close_ne (by simpa [closed] using hclosed)
  | _ => rfl

theorem get?_enter_eq_some (h : (e.enter k d).get? fd = some o) :
    e.Names k fd o ∧ fd ∈ e.opened ∨ d.get? fd = some o ∧ fd ∉ e.opened ∧ fd ∉ e.closed := by
  by_cases hopened : fd ∈ e.opened
  · obtain ⟨o', ho', hnames⟩ := get?_enter_opened (k := k) d hopened
    obtain rfl : o = o' := Option.some.inj (h.symm.trans ho')
    exact Or.inl ⟨hnames, hopened⟩
  · by_cases hclosed : fd ∈ e.closed
    · rw [get?_enter_closed d hclosed] at h
      cases h
    · rw [get?_enter_untouched d hopened hclosed] at h
      exact Or.inr ⟨h, hopened, hclosed⟩

end Event

/-! ## Referents and the events that opened them -/

/-- A descriptor stays open until an event opens or closes it. -/
theorem openSince_concat_iff {e' : Event α η} :
    OpenSince (events ++ [e']) k e fd ↔
      OpenSince events k e fd ∧ fd ∉ e'.opened ∧ fd ∉ e'.closed ∨
        k = events.length ∧ e' = e ∧ fd ∈ e.opened := by
  constructor
  · intro h
    have hlt := (List.getElem?_eq_some_iff.mp h.here).1
    rw [List.length_append, List.length_singleton, Nat.lt_succ_iff] at hlt
    rcases Nat.lt_or_eq_of_le hlt with hlt | rfl
    · refine Or.inl ⟨⟨?_, h.opened, fun m e'' hm he'' => ?_⟩,
        h.untouched events.length e' hlt (by simp)⟩
      · rw [← h.here, List.getElem?_append_left hlt]
      · refine h.untouched m e'' hm ?_
        rw [List.getElem?_append_left (List.getElem?_eq_some_iff.mp he'').1, he'']
    · exact Or.inr ⟨rfl, by simpa using h.here, h.opened⟩
  · rintro (⟨h, huntouched⟩ | ⟨rfl, rfl, hopened⟩)
    · exact h.append (by simpa using huntouched)
    · exact openSince_cons events hopened (by simp)

theorem OpenSince.lt_length (h : OpenSince events k e fd) : k < events.length :=
  (List.getElem?_eq_some_iff.mp h.here).1

variable {base : Descriptors α}

/-- A descriptor stands for what it stood for at first, or for what an event opened. -/
theorem get?_referents_eq_some (h : (referents base events).get? fd = some o) :
    o = .inherited fd ∨ ∃ k e, OpenSince events k e fd ∧ e.Names k fd o := by
  induction events using List.reverseRecOn with
  | nil =>
      rw [referents_nil, Descriptors.get?_inherited, Option.map_eq_some_iff] at h
      obtain ⟨a, -, rfl⟩ := h
      exact Or.inl rfl
  | append_singleton events e' ih =>
      rw [referents_concat] at h
      rcases Event.get?_enter_eq_some _ h with ⟨hnames, hopened⟩ | ⟨h, huntouched⟩
      · exact Or.inr ⟨_, e', openSince_concat_iff.mpr (Or.inr ⟨rfl, rfl, hopened⟩), hnames⟩
      · rcases ih h with rfl | ⟨k, e, hsince, hnames⟩
        · exact Or.inl rfl
        · exact Or.inr ⟨k, e, openSince_concat_iff.mpr (Or.inl ⟨hsince, huntouched⟩), hnames⟩

/-- A descriptor that is open since an event stands for what that event opened. -/
theorem OpenSince.get?_referents (h : OpenSince events k e fd) (base : Descriptors α) :
    ∃ o, (referents base events).get? fd = some o ∧ e.Names k fd o := by
  induction events using List.reverseRecOn with
  | nil => simpa using h.here
  | append_singleton events e' ih =>
      rw [referents_concat]
      rcases openSince_concat_iff.mp h with ⟨h, hopened, hclosed⟩ | ⟨rfl, rfl, hopened⟩
      · rw [Event.get?_enter_untouched _ hopened hclosed]
        exact ih h
      · exact Event.get?_enter_opened _ hopened

theorem OpenSince.mem_live (h : OpenSince events k e fd) : fd ∈ live events := by
  induction events using List.reverseRecOn with
  | nil => simpa using h.here
  | append_singleton events e' ih =>
      rw [live_concat]
      rcases openSince_concat_iff.mp h with ⟨h, -, hclosed⟩ | ⟨rfl, rfl, hopened⟩
      · simp [ih h, hclosed]
      · simp [hopened, Event.closed_eq_nil hopened]

/-- Nothing stands for what an event opens that is still to come. -/
theorem before_of_get?_referents (h : (referents base events).get? fd = some o) :
    o.Before events.length := by
  rcases get?_referents_eq_some h with rfl | ⟨k, e, hsince, hnames⟩
  · trivial
  · exact hnames.before.mono hsince.lt_length

/-! ## Referents as objects of the host -/

/-- A table holds what another one says, if its referents are these objects. -/
def Denotes (value : Referent → Option α) (names : Descriptors Referent)
    (d : Descriptors α) : Prop :=
  ∀ fd, (names.get? fd).map value = (d.get? fd).map some

section Denotes

variable {value : Referent → Option α} {names : Descriptors Referent} {d : Descriptors α} {a : α}

theorem Denotes.isOpen_eq (h : Denotes value names d) (fd : Nat) :
    names.isOpen fd = d.isOpen fd := by
  have hfd := congrArg Option.isSome (h fd)
  simpa [Descriptors.isOpen] using hfd

theorem Denotes.put (h : Denotes value names d) (ho : value o = some a) (fd : Nat) :
    Denotes value (names.put fd o) (d.put fd a) := by
  intro other
  by_cases hother : other = fd
  · subst hother
    simp [ho]
  · rw [Descriptors.get?_put_ne _ _ hother, Descriptors.get?_put_ne _ _ hother, h other]

theorem Denotes.close (h : Denotes value names d) (fd : Nat) :
    Denotes value (names.close fd) (d.close fd) := by
  intro other
  by_cases hother : other = fd
  · subst hother
    simp
  · rw [Descriptors.get?_close_ne _ hother, Descriptors.get?_close_ne _ hother, h other]

theorem Denotes.congr {value' : Referent → Option α} (h : Denotes value names d)
    (hvalue : ∀ fd o, names.get? fd = some o → value' o = value o) : Denotes value' names d := by
  intro fd
  rw [← h fd]
  exact Option.map_congr fun o ho => hvalue fd o ho

/-- What a table holds can be followed through the requests of a process. -/
theorem Denotes.step? (h : Denotes value names d) {step : Rewiring}
    {names' : Descriptors Referent} (hstep : names.step? step = some names') :
    ∃ d', d.step? step = some d' ∧ Denotes value names' d' := by
  cases step with
  | close fd =>
      cases hstep
      exact ⟨_, rfl, h.close fd⟩
  | duplicate fd target =>
      obtain ⟨o, ho, rfl⟩ := Option.map_eq_some_iff.mp hstep
      have hfd := h fd
      rw [ho, Option.map_some] at hfd
      obtain ⟨a, ha, hvalue⟩ := Option.map_eq_some_iff.mp hfd.symm
      exact ⟨d.put target a, by simp [Descriptors.step?, Descriptors.duplicate?, ha],
        h.put hvalue.symm target⟩

theorem Denotes.steps? (h : Denotes value names d) {l : List Rewiring}
    {names' : Descriptors Referent} (hsteps : names.steps? l = some names') :
    ∃ d', d.steps? l = some d' ∧ Denotes value names' d' := by
  induction l generalizing names d with
  | nil =>
      cases hsteps
      exact ⟨d, rfl, h⟩
  | cons step l ih =>
      obtain ⟨names₁, hstep, hrest⟩ := Option.bind_eq_some_iff.mp hsteps
      obtain ⟨d₁, hd₁, h₁⟩ := h.step? hstep
      obtain ⟨d', hd', h'⟩ := ih h₁ hrest
      exact ⟨d', by rw [Descriptors.steps?_cons, hd₁, Option.bind_some, hd'], h'⟩

end Denotes

section Running

variable {σ : Type} [Host σ α η] {value : Referent → Option α} {names : Descriptors Referent}
  {n : Nat}

/-- An operation gives objects to the referents that it brings, and to no others. -/
theorem Operates.denotes {d d' : Descriptors α} {host host' : σ} (h : Operates d host e d' host')
    (hnames : Denotes value names d) (hbefore : ∀ fd o, names.get? fd = some o → o.Before n) :
    ∃ value', (∀ o : Referent, o.Before n → value' o = value o) ∧
      Denotes value' (e.enter n names) d' := by
  -- objects for new referents leave the old ones as they are
  have hextend : ∀ new : Referent → Option α,
      Denotes (fun o => if o.Before n then value o else new o) names d :=
    fun new => hnames.congr fun fd o ho => if_pos (hbefore fd o ho)
  have hkeep : ∀ new : Referent → Option α, ∀ o : Referent, o.Before n →
      (fun o => if o.Before n then value o else new o) o = value o :=
    fun new o ho => if_pos ho
  cases h with
  | @inputOpened path a =>
      refine ⟨_, hkeep fun _ => some a, (hextend _).put ?_ _⟩
      exact if_neg (Nat.lt_irrefl n)
  | @outputOpened mode path a =>
      refine ⟨_, hkeep fun _ => some a, (hextend _).put ?_ _⟩
      exact if_neg (Nat.lt_irrefl n)
  | @pipeMade stage r w =>
      refine ⟨_, hkeep fun
        | .readEnd _ => some r
        | _ => some w, ((hextend _).put ?_ _).put ?_ _⟩
      · exact if_neg (Nat.lt_irrefl n)
      · exact if_neg (Nat.lt_irrefl n)
  | @closed fd => exact ⟨value, fun _ _ => rfl, hnames.close fd⟩
  | @notHeld fd => exact ⟨value, fun _ _ => rfl, hnames.close fd⟩
  | _ => exact ⟨value, fun _ _ => rfl, hnames⟩

/-- Throughout a run every referent is the same object of the host. What a new process is given a
copy of is what the shell holds then. -/
theorem Shell.Follows.exists_value {s t : Shell σ α η} (h : s.Follows events t) :
    ∃ value, Denotes value (referents s.descriptors events) t.descriptors ∧
      ∀ j launch outcome, events[j]? = some (.spawn launch outcome) →
        Denotes value (referents s.descriptors (events.take j)) launch.descriptors := by
  induction h with
  | nil =>
      refine ⟨fun | .inherited fd => s.descriptors.get? fd | _ => none, fun fd => ?_, by simp⟩
      rw [referents_nil, Descriptors.get?_inherited]
      cases hfd : s.descriptors.get? fd <;> simp [hfd]
  | @concat events e t u before act ih =>
      obtain ⟨value, hnow, hthen⟩ := ih
      obtain ⟨value', hvalue, hnext⟩ :=
        act.operates.denotes hnow fun fd o => before_of_get?_referents
      refine ⟨value', by rwa [referents_concat], fun j launch outcome hj => ?_⟩
      have hlt := (List.getElem?_eq_some_iff.mp hj).1
      rw [List.length_append, List.length_singleton, Nat.lt_succ_iff] at hlt
      rw [List.take_append_of_le_length hlt]
      have hcopy : Denotes value (referents s.descriptors (events.take j)) launch.descriptors := by
        rcases Nat.lt_or_eq_of_le hlt with hlt | rfl
        · rw [List.getElem?_append_left hlt] at hj
          exact hthen j launch outcome hj
        · obtain rfl : e = .spawn launch outcome := by simpa using hj
          rwa [List.take_length, act.operates.spawn_eq.1]
      exact hcopy.congr fun fd o ho =>
        hvalue o ((before_of_get?_referents ho).mono (List.length_take_le' j events))

end Running

end ShellPipeline
