import ShellPipeline.Machine.Host
import ShellPipeline.Proofs.Run.Ownership

/-!
# Writing to a system that takes a part at a time

A system may take less than it is given, may be interrupted or may refuse. At every moment it has
taken a beginning of what was to be written, and the writing is over as soon as nothing is left or
an answer gives it up.
-/

namespace ShellPipeline

/-! ## Answers -/

namespace WriteAnswer

/-- An answer after which the system is given what is left. -/
inductive GoesOn : WriteAnswer → Prop
  | took {n : Nat} (h : 0 < n) : GoesOn (.took n)
  | interrupted : GoesOn (.failed .interrupted)

/-- An answer that gives the writing up, with the reason. -/
inductive GivesUp : WriteAnswer → Errno → Prop
  | nothing : GivesUp (.took 0) .inputOutput
  | failed {cause : Errno} (h : cause ≠ .interrupted) : GivesUp (.failed cause) cause

def count : WriteAnswer → Nat
  | took n => n
  | failed _ => 0

def refusal? : WriteAnswer → Option Errno
  | took 0 => some .inputOutput
  | took (_ + 1) => none
  | failed cause => if cause = .interrupted then none else some cause

variable {a : WriteAnswer} {e : Errno} {answers : List WriteAnswer}

theorem refusal?_eq_none_iff : a.refusal? = none ↔ a.GoesOn := by
  constructor
  · intro h
    match a with
    | took 0 => cases h
    | took (n + 1) => exact .took n.succ_pos
    | failed cause =>
        have hcause : cause = .interrupted := by simpa [refusal?] using h
        exact hcause ▸ .interrupted
  · rintro (@⟨n, hn⟩ | _)
    · obtain ⟨n, rfl⟩ := Nat.exists_eq_succ_of_ne_zero hn.ne'
      rfl
    · rfl

theorem refusal?_eq_some_iff : a.refusal? = some e ↔ a.GivesUp e := by
  constructor
  · intro h
    match a with
    | took 0 =>
        cases h
        exact .nothing
    | took (n + 1) => cases h
    | failed cause =>
        have hcause : cause ≠ .interrupted ∧ cause = e := by simpa [refusal?] using h
        obtain ⟨hcause, rfl⟩ := hcause
        exact .failed hcause
  · rintro (_ | hcause)
    · rfl
    · exact if_neg hcause

theorem GivesUp.count_eq (h : a.GivesUp e) : a.count = 0 := by
  cases h <;> rfl

def counted : List WriteAnswer → Nat
  | [] => 0
  | a :: answers => a.count + counted answers

@[simp] theorem counted_nil : counted [] = 0 := rfl

@[simp] theorem counted_cons (a : WriteAnswer) (answers : List WriteAnswer) :
    counted (a :: answers) = a.count + counted answers := rfl

@[simp] theorem counted_append (answers more : List WriteAnswer) :
    counted (answers ++ more) = counted answers + counted more := by
  induction answers with
  | nil => simp
  | cons a answers ih => rw [List.cons_append, counted_cons, counted_cons, ih, Nat.add_assoc]

def interruptions (answers : List WriteAnswer) : Nat :=
  answers.count (.failed .interrupted)

/-- Every answer that goes on counts a byte, unless it is an interruption. -/
theorem length_le_counted (h : ∀ a ∈ answers, a.GoesOn) :
    answers.length ≤ counted answers + interruptions answers := by
  induction answers with
  | nil => simp
  | cons a answers ih =>
      obtain ⟨ha, hanswers⟩ := List.forall_mem_cons.mp h
      have hrest := ih hanswers
      rw [interruptions, List.count_cons, counted_cons, List.length_cons]
      unfold interruptions at hrest
      cases ha with
      | took hn =>
          dsimp only [count]
          omega
      | interrupted =>
          simp only [beq_self_eq_true, if_true]
          omega

end WriteAnswer

/-! ## One call after the other -/

/-- One call: what the system was given and what it answered. -/
structure WriteCall where
  given : Bytes
  answer : WriteAnswer
deriving DecidableEq, Repr

def WriteCall.taken (c : WriteCall) : Bytes :=
  c.given.take c.answer.count

/-- How far the writing of some bytes has come. -/
structure Writing where
  left : Bytes
  calls : List WriteCall := []
  refusal? : Option Errno := none
deriving DecidableEq, Repr

open WriteAnswer (counted interruptions length_le_counted refusal?_eq_none_iff
  refusal?_eq_some_iff)

namespace Writing

def start (bytes : Bytes) : Writing :=
  ⟨bytes, [], none⟩

def accepted (w : Writing) : Bytes :=
  w.calls.flatMap WriteCall.taken

def outcome? (w : Writing) : Option (Except Errno Unit) :=
  match w.refusal? with
  | some e => some (.error e)
  | none => if w.left = [] then some (.ok ()) else none

def call (w : Writing) (a : WriteAnswer) : Writing :=
  ⟨w.left.drop a.count, w.calls ++ [⟨w.left, a⟩], a.refusal?⟩

/-- Calls the system until the writing is over, as long as there are answers. Those that were not
asked for are kept. -/
def run : Writing → List WriteAnswer → Writing × List WriteAnswer
  | w, [] => (w, [])
  | w, a :: rest => match w.outcome? with
    | some _ => (w, a :: rest)
    | none => (w.call a).run rest

variable {bytes : Bytes} {asked answers others passed : List WriteAnswer}
  {a : WriteAnswer} {w v : Writing} {e : Errno} {result : Except Errno Unit}

@[simp] theorem left_call (w : Writing) (a : WriteAnswer) :
    (w.call a).left = w.left.drop a.count := rfl

@[simp] theorem calls_call (w : Writing) (a : WriteAnswer) :
    (w.call a).calls = w.calls ++ [⟨w.left, a⟩] := rfl

@[simp] theorem refusal?_call (w : Writing) (a : WriteAnswer) :
    (w.call a).refusal? = a.refusal? := rfl

theorem accepted_call (w : Writing) (a : WriteAnswer) :
    (w.call a).accepted = w.accepted ++ w.left.take a.count := by
  simp [accepted, WriteCall.taken]

theorem outcome?_eq_none_iff : w.outcome? = none ↔ w.refusal? = none ∧ w.left ≠ [] := by
  unfold outcome?
  cases w.refusal? <;> simp

theorem outcome?_eq_ok_iff : w.outcome? = some (.ok ()) ↔ w.refusal? = none ∧ w.left = [] := by
  unfold outcome?
  cases w.refusal? <;> simp

theorem outcome?_eq_error_iff : w.outcome? = some (.error e) ↔ w.refusal? = some e := by
  unfold outcome?
  cases w.refusal? with
  | none => by_cases hleft : w.left = [] <;> simp [hleft]
  | some e => simp

theorem run_of_outcome (h : w.outcome? = some result) (answers : List WriteAnswer) :
    w.run answers = (w, answers) := by
  cases answers with
  | nil => rfl
  | cons a rest => rw [run, h]

theorem run_of_no_outcome (h : w.outcome? = none) (a : WriteAnswer) (rest : List WriteAnswer) :
    w.run (a :: rest) = (w.call a).run rest := by
  rw [run, h]

/-! ### What every call keeps -/

/-- A writing of some bytes after some answers. -/
structure After (bytes : Bytes) (asked : List WriteAnswer) (w : Writing) : Prop where
  answers : w.calls.map WriteCall.answer = asked
  /-- What the calls before have taken and what a call is given make up the bytes. -/
  given : Along (fun before c => before.flatMap WriteCall.taken ++ c.given = bytes) w.calls
  accepted : w.accepted = bytes.take (counted asked)
  left : w.left = bytes.drop (counted asked)
  /-- An answer is asked for only while bytes are left and nothing has given the writing up. -/
  due : Along (fun before _ => (∀ b ∈ before, b.GoesOn) ∧
    counted before < bytes.length) asked
  goesOn : w.refusal? = none → ∀ b ∈ asked, b.GoesOn
  givesUp : ∀ e, w.refusal? = some e → ∃ passed a, asked = passed ++ [a] ∧ a.GivesUp e

/-- Bytes are left when, after answers that all go on, one gives the writing up. -/
structure BrokenOff (bytes : Bytes) (passed : List WriteAnswer) (a : WriteAnswer) (e : Errno) :
    Prop where
  goesOn : ∀ b ∈ passed, b.GoesOn
  left : counted passed < bytes.length
  givesUp : a.GivesUp e

theorem after_start (bytes : Bytes) : After bytes [] (start bytes) where
  answers := rfl
  given := by simp [Along, start]
  accepted := by simp [Writing.accepted, start]
  left := by simp [start]
  due := by simp [Along]
  goesOn := by simp
  givesUp := by simp [start]

namespace After

theorem joined (h : After bytes asked w) : w.accepted ++ w.left = bytes := by
  rw [h.accepted, h.left, List.take_append_drop]

theorem counted_lt (h : After bytes asked w) (hleft : w.left ≠ []) :
    counted asked < bytes.length := by
  rw [h.left] at hleft
  exact Nat.lt_of_not_le fun hle => hleft (List.drop_of_length_le hle)

theorem call (h : After bytes asked w) (hgoing : w.outcome? = none) (a : WriteAnswer) :
    After bytes (asked ++ [a]) (w.call a) := by
  obtain ⟨hrefusal, hleft⟩ := outcome?_eq_none_iff.mp hgoing
  have hpassed : ∀ b ∈ asked, b.GoesOn := h.goesOn hrefusal
  constructor
  case answers => simp [h.answers]
  case given => exact along_concat h.given h.joined
  case accepted =>
    have hcounted : counted (asked ++ [a]) = counted asked + a.count := by simp
    rw [accepted_call, h.accepted, h.left, hcounted, List.take_add]
  case left => simp [h.left]
  case due => exact along_concat h.due ⟨hpassed, h.counted_lt hleft⟩
  case goesOn =>
    intro hnone
    have ha : a.GoesOn := refusal?_eq_none_iff.mp hnone
    exact List.forall_mem_append.mpr ⟨hpassed, List.forall_mem_singleton.mpr ha⟩
  case givesUp =>
    intro e hsome
    exact ⟨asked, a, rfl, refusal?_eq_some_iff.mp hsome⟩

/-- The answers that are asked for come first, and only a writing that is over leaves any. -/
theorem run (h : After bytes asked w) (answers : List WriteAnswer) :
    ∃ more, answers = more ++ (w.run answers).2 ∧
      After bytes (asked ++ more) (w.run answers).1 ∧
      ((w.run answers).1.outcome? = none → (w.run answers).2 = []) := by
  induction answers generalizing w asked with
  | nil => exact ⟨[], rfl, by simpa [Writing.run] using h, fun _ => rfl⟩
  | cons a rest ih =>
      cases hgoing : w.outcome? with
      | some result =>
          rw [run_of_outcome hgoing]
          refine ⟨[], rfl, by simpa using h, ?_⟩
          intro hnone
          cases hgoing.symm.trans hnone
      | none =>
          rw [run_of_no_outcome hgoing]
          obtain ⟨more, hrest, hafter, hends⟩ := ih (h.call hgoing a)
          refine ⟨a :: more, ?_, ?_, hends⟩
          · exact congrArg (a :: ·) hrest
          · rwa [List.append_assoc] at hafter

theorem due_last (h : After bytes (passed ++ [a]) w) :
    (∀ b ∈ passed, b.GoesOn) ∧ counted passed < bytes.length := by
  have hdue := h.due passed.length a (by simp)
  rwa [List.take_left] at hdue

/-- If the writing was refused, the last answer gave it up and all answers before went on. -/
theorem brokenOff (h : After bytes asked w) (hrefusal : w.refusal? = some e) :
    ∃ passed a, asked = passed ++ [a] ∧ BrokenOff bytes passed a e := by
  obtain ⟨passed, a, rfl, ha⟩ := h.givesUp e hrefusal
  obtain ⟨hpassed, hcounted⟩ := h.due_last
  exact ⟨passed, a, rfl, hpassed, hcounted, ha⟩

/-- A refusal leaves bytes. -/
theorem left_ne_nil (h : After bytes asked w) (hrefusal : w.refusal? = some e) : w.left ≠ [] := by
  obtain ⟨passed, a, rfl, hbroken⟩ := h.brokenOff hrefusal
  have hcounted : counted (passed ++ [a]) = counted passed := by
    simp [hbroken.givesUp.count_eq]
  rw [h.left, hcounted]
  intro hnil
  have hlength := List.drop_eq_nil_iff.mp hnil
  exact Nat.not_le_of_lt hbroken.left hlength

/-- The writing has succeeded exactly if the system has accepted all bytes. -/
theorem outcome?_eq_ok_iff_accepted (h : After bytes asked w) :
    w.outcome? = some (.ok ()) ↔ w.accepted = bytes := by
  have hjoined := h.joined
  rw [outcome?_eq_ok_iff]
  constructor
  · rintro ⟨-, hleft⟩
    rwa [hleft, List.append_nil] at hjoined
  · intro haccepted
    have hleft : w.left = [] := by
      rw [haccepted] at hjoined
      exact List.append_right_eq_self.mp hjoined
    refine ⟨?_, hleft⟩
    rw [Option.eq_none_iff_forall_ne_some]
    intro e hrefusal
    exact h.left_ne_nil hrefusal hleft

theorem length_lt (h : After bytes asked w) (hgoing : w.outcome? = none) :
    asked.length < bytes.length + interruptions asked := by
  obtain ⟨hrefusal, hleft⟩ := outcome?_eq_none_iff.mp hgoing
  have hlength := length_le_counted (h.goesOn hrefusal)
  have hcounted := h.counted_lt hleft
  omega

theorem length_le (h : After bytes asked w) :
    asked.length ≤ bytes.length + interruptions asked := by
  rcases List.eq_nil_or_concat' asked with rfl | ⟨passed, a, rfl⟩
  · simp
  · -- the last answer may count nothing, so the bound comes from the answers before it
    obtain ⟨hpassed, hcounted⟩ := h.due_last
    have hlength := length_le_counted hpassed
    have hmono : interruptions passed ≤ interruptions (passed ++ [a]) := by
      simp [interruptions]
    rw [List.length_append, List.length_singleton]
    omega

end After

/-! ### Where a writing ends -/

/-- While bytes are left, answers that go on are all asked for. -/
theorem run_of_goesOn (hrefusal : w.refusal? = none) (hpassed : ∀ b ∈ passed, b.GoesOn)
    (hcounted : counted passed < w.left.length) (rest : List WriteAnswer) :
    ∃ v : Writing, w.run (passed ++ rest) = v.run rest ∧ v.outcome? = none := by
  induction passed generalizing w with
  | nil =>
      refine ⟨w, rfl, outcome?_eq_none_iff.mpr ⟨hrefusal, ?_⟩⟩
      exact List.ne_nil_of_length_pos hcounted
  | cons a passed ih =>
      obtain ⟨ha, hpassed⟩ := List.forall_mem_cons.mp hpassed
      rw [WriteAnswer.counted_cons] at hcounted
      have hgoing : w.outcome? = none :=
        outcome?_eq_none_iff.mpr ⟨hrefusal, List.ne_nil_of_length_pos (by omega)⟩
      have hless : counted passed < (w.call a).left.length := by
        rw [left_call, List.length_drop]
        omega
      obtain ⟨v, hrun, hv⟩ := ih (refusal?_eq_none_iff.mpr ha) hpassed hless
      refine ⟨v, ?_, hv⟩
      rw [List.cons_append, run_of_no_outcome hgoing, hrun]

/-- Nothing is asked for after a refusal. -/
theorem run_of_brokenOff (h : BrokenOff bytes passed a e) (rest : List WriteAnswer) :
    ∃ t, (start bytes).run (passed ++ a :: rest) = (t, rest) ∧
      t.outcome? = some (.error e) ∧ t.accepted = bytes.take (counted passed) := by
  obtain ⟨v, hrun, hv⟩ := run_of_goesOn (w := start bytes) rfl h.goesOn h.left (a :: rest)
  have houtcome : (v.call a).outcome? = some (.error e) :=
    outcome?_eq_error_iff.mpr (refusal?_eq_some_iff.mpr h.givesUp)
  rw [run_of_no_outcome hv, run_of_outcome houtcome] at hrun
  refine ⟨v.call a, hrun, houtcome, ?_⟩
  -- what was asked for is known from the answers that are left over
  obtain ⟨more, hmore, hafter, -⟩ := (after_start bytes).run (passed ++ a :: rest)
  rw [hrun] at hmore hafter
  obtain rfl : more = passed ++ [a] := by
    rw [← List.append_cancel_right_eq more rest, ← hmore, List.append_assoc]
    rfl
  simpa [h.givesUp.count_eq] using hafter.accepted

/-! ### Interruptions -/

/-- What a writing has come to, however many calls it took. -/
def progress (w : Writing) : Bytes × Bytes × Option Errno :=
  (w.accepted, w.left, w.refusal?)

theorem outcome?_congr (h : w.progress = v.progress) : w.outcome? = v.outcome? := by
  simp only [progress, Prod.mk.injEq] at h
  obtain ⟨-, hleft, hrefusal⟩ := h
  rw [outcome?, outcome?, hleft, hrefusal]

theorem progress_call (h : w.progress = v.progress) (a : WriteAnswer) :
    (w.call a).progress = (v.call a).progress := by
  simp only [progress, Prod.mk.injEq] at h
  obtain ⟨haccepted, hleft, -⟩ := h
  simp only [progress, accepted_call, left_call, refusal?_call, haccepted, hleft]

/-- A call that is interrupted changes nothing. -/
theorem progress_interrupted (h : w.outcome? = none) :
    (w.call (.failed .interrupted)).progress = w.progress := by
  obtain ⟨hrefusal, -⟩ := outcome?_eq_none_iff.mp h
  simp [progress, accepted_call, WriteAnswer.count, WriteAnswer.refusal?, hrefusal]

def withoutInterruptions (answers : List WriteAnswer) : List WriteAnswer :=
  answers.filter (· ≠ .failed .interrupted)

theorem progress_run_withoutInterruptions (h : w.progress = v.progress)
    (answers : List WriteAnswer) :
    (w.run answers).1.progress = (v.run (withoutInterruptions answers)).1.progress := by
  induction answers generalizing w v with
  | nil => exact h
  | cons a rest ih =>
      cases hw : w.outcome? with
      | some result =>
          have hv : v.outcome? = some result := (outcome?_congr h).symm.trans hw
          rw [run_of_outcome hw, run_of_outcome hv]
          exact h
      | none =>
          have hv : v.outcome? = none := (outcome?_congr h).symm.trans hw
          rw [run_of_no_outcome hw]
          by_cases ha : a = .failed .interrupted
          · -- only one of the two makes this call, which leaves it where the other one is
            subst ha
            have hsame : withoutInterruptions (.failed .interrupted :: rest)
                = withoutInterruptions rest := by
              simp [withoutInterruptions]
            rw [hsame]
            exact ih ((progress_interrupted hw).trans h)
          · have hkept : withoutInterruptions (a :: rest) = a :: withoutInterruptions rest := by
              simp [withoutInterruptions, ha]
            rw [hkept, run_of_no_outcome hv]
            exact ih (progress_call h a)

/-- Interruptions make no difference to what becomes of a writing. -/
theorem progress_run_congr (h : withoutInterruptions others = withoutInterruptions answers)
    (w : Writing) : (w.run others).1.progress = (w.run answers).1.progress := by
  rw [progress_run_withoutInterruptions rfl others, h,
    ← progress_run_withoutInterruptions rfl answers]

end Writing

/-! ## All of a text -/

section WriteAll

variable {bytes : Bytes} {a : WriteAnswer} {e : Errno}

theorem writeAll_nil (answers : List WriteAnswer) :
    writeAll [] answers = ⟨[], .ok (), answers⟩ := by
  rw [writeAll.eq_def]
  rfl

theorem writeAll_of_no_answers (bytes : Bytes) : writeAll bytes [] = ⟨bytes, .ok (), []⟩ := by
  cases bytes <;> rfl

theorem writeAll_of_goesOn (hbytes : bytes ≠ []) (ha : a.GoesOn) (rest : List WriteAnswer) :
    writeAll bytes (a :: rest) =
      { writeAll (bytes.drop a.count) rest with
        accepted := bytes.take a.count ++ (writeAll (bytes.drop a.count) rest).accepted } := by
  have hempty : bytes.isEmpty = false := by simpa using hbytes
  cases ha with
  | @took n hn =>
      obtain ⟨n, rfl⟩ := Nat.exists_eq_succ_of_ne_zero hn.ne'
      rw [writeAll, hempty]
      rfl
  | interrupted =>
      rw [writeAll, hempty]
      rfl

theorem writeAll_of_givesUp (hbytes : bytes ≠ []) (ha : a.GivesUp e) (rest : List WriteAnswer) :
    writeAll bytes (a :: rest) = ⟨[], .error e, rest⟩ := by
  have hempty : bytes.isEmpty = false := by simpa using hbytes
  cases ha with
  | nothing =>
      rw [writeAll, hempty]
      rfl
  | failed hcause =>
      rw [writeAll, hempty]
      simp [hcause]

end WriteAll

namespace Writing

variable {w v : Writing}

/-- What becomes of a writing when the system takes all that is still left. -/
def finish (w : Writing) (unused : List WriteAnswer) : Written :=
  match w.outcome? with
  | some result => ⟨w.accepted, result, unused⟩
  | none => ⟨w.accepted ++ w.left, .ok (), []⟩

theorem finish_of_outcome {result : Except Errno Unit} (h : w.outcome? = some result)
    (unused : List WriteAnswer) : w.finish unused = ⟨w.accepted, result, unused⟩ := by
  rw [finish, h]

theorem finish_of_no_outcome (h : w.outcome? = none) (unused : List WriteAnswer) :
    w.finish unused = ⟨w.accepted ++ w.left, .ok (), []⟩ := by
  rw [finish, h]

theorem unused_finish {unused : List WriteAnswer} (h : w.outcome? = none → unused = []) :
    (w.finish unused).unused = unused := by
  cases houtcome : w.outcome? with
  | none => rw [finish_of_no_outcome houtcome, h houtcome]
  | some result => rw [finish_of_outcome houtcome]

/-- What becomes of a writing depends on what it has come to alone. -/
theorem finish_congr (h : w.progress = v.progress) (unused spare : List WriteAnswer) :
    (w.finish unused).accepted = (v.finish spare).accepted ∧
      (w.finish unused).result = (v.finish spare).result := by
  have houtcome := outcome?_congr h
  simp only [progress, Prod.mk.injEq] at h
  obtain ⟨haccepted, hleft, -⟩ := h
  cases hv : v.outcome? with
  | none =>
      rw [finish_of_no_outcome hv, finish_of_no_outcome (houtcome.trans hv), haccepted, hleft]
      exact ⟨rfl, rfl⟩
  | some result =>
      rw [finish_of_outcome hv, finish_of_outcome (houtcome.trans hv), haccepted]
      exact ⟨rfl, rfl⟩

theorem finish_run_of_left_nil (h : w.refusal? = none) (hleft : w.left = [])
    (answers : List WriteAnswer) :
    (w.run answers).1.finish (w.run answers).2 =
      { writeAll w.left answers with
        accepted := w.accepted ++ (writeAll w.left answers).accepted } := by
  have hdone : w.outcome? = some (.ok ()) := outcome?_eq_ok_iff.mpr ⟨h, hleft⟩
  rw [run_of_outcome hdone, finish_of_outcome hdone, hleft, writeAll_nil, List.append_nil]

/-- Writing call by call comes to what writing all comes to, after what has been taken before. -/
theorem finish_run (h : w.refusal? = none) (answers : List WriteAnswer) :
    (w.run answers).1.finish (w.run answers).2 =
      { writeAll w.left answers with
        accepted := w.accepted ++ (writeAll w.left answers).accepted } := by
  induction answers generalizing w with
  | nil =>
      rcases eq_or_ne w.left [] with hleft | hleft
      · exact finish_run_of_left_nil h hleft []
      · have hgoing : w.outcome? = none := outcome?_eq_none_iff.mpr ⟨h, hleft⟩
        rw [run, finish_of_no_outcome hgoing, writeAll_of_no_answers]
  | cons a rest ih =>
      rcases eq_or_ne w.left [] with hleft | hleft
      · exact finish_run_of_left_nil h hleft (a :: rest)
      have hgoing : w.outcome? = none := outcome?_eq_none_iff.mpr ⟨h, hleft⟩
      rw [run_of_no_outcome hgoing]
      cases hrefusal : a.refusal? with
      | none =>
          have ha : a.GoesOn := refusal?_eq_none_iff.mp hrefusal
          rw [ih hrefusal, writeAll_of_goesOn hleft ha, left_call, accepted_call,
            List.append_assoc]
      | some e =>
          have ha : a.GivesUp e := refusal?_eq_some_iff.mp hrefusal
          have hover : (w.call a).outcome? = some (.error e) := outcome?_eq_error_iff.mpr hrefusal
          rw [run_of_outcome hover, finish_of_outcome hover, writeAll_of_givesUp hleft ha,
            accepted_call, ha.count_eq, List.take_zero]

/-- To write all bytes is to call the system until the writing is over. -/
theorem writeAll_eq (bytes : Bytes) (answers : List WriteAnswer) :
    writeAll bytes answers =
      ((start bytes).run answers).1.finish ((start bytes).run answers).2 :=
  (finish_run (w := start bytes) rfl answers).symm

namespace After

variable {bytes : Bytes} {asked : List WriteAnswer}

/-- What the system has accepted is a beginning of what was written. -/
theorem finish_prefix (h : After bytes asked w) (unused : List WriteAnswer) :
    (w.finish unused).accepted <+: bytes := by
  cases houtcome : w.outcome? with
  | none =>
      rw [finish_of_no_outcome houtcome, h.joined]
  | some result =>
      rw [finish_of_outcome houtcome, h.accepted]
      exact List.take_prefix _ _

theorem finish_ok_iff (h : After bytes asked w) (unused : List WriteAnswer) :
    (w.finish unused).result = .ok () ↔ (w.finish unused).accepted = bytes := by
  cases houtcome : w.outcome? with
  | none => simp [finish_of_no_outcome houtcome, h.joined]
  | some result => simp [finish_of_outcome houtcome, ← h.outcome?_eq_ok_iff_accepted, houtcome]

/-- A writing is given up exactly by a refusal that comes while bytes are left. -/
theorem outcome?_eq_error_iff_brokenOff {answers unused : List WriteAnswer} {e : Errno}
    (h : After bytes asked w) (hrun : (start bytes).run answers = (w, unused))
    (hanswers : answers = asked ++ unused) :
    w.outcome? = some (.error e) ↔
      ∃ passed a rest, answers = passed ++ a :: rest ∧ BrokenOff bytes passed a e := by
  constructor
  · intro houtcome
    obtain ⟨passed, a, rfl, hbroken⟩ := h.brokenOff (outcome?_eq_error_iff.mp houtcome)
    exact ⟨passed, a, unused, by simp [hanswers], hbroken⟩
  · rintro ⟨passed, a, rest, rfl, hbroken⟩
    obtain ⟨t, ht, houtcome, -⟩ := run_of_brokenOff hbroken rest
    obtain ⟨rfl, -⟩ := Prod.mk.inj (hrun.symm.trans ht)
    exact houtcome

end After

end Writing

/-- Whatever the system has answered so far, it has taken a beginning of the bytes: every call is
given exactly what the calls before it have left. The writing succeeds if everything was taken, and
otherwise fails with the first refusal, after what was taken by then. Interruptions change neither,
and there are no more calls than bytes and interruptions. A process that says something to its
standard error delivers just that. -/
theorem writeAll_delivers_prefix (bytes : Bytes) (answers : List WriteAnswer) :
    ∃ (t : Writing) (asked unused : List WriteAnswer),
      (Writing.start bytes).run answers = (t, unused) ∧
      answers = asked ++ unused ∧
      t.calls.map WriteCall.answer = asked ∧
      Along (fun before c => before.flatMap WriteCall.taken ++ c.given = bytes) t.calls ∧
      t.accepted <+: bytes ∧
      (t.outcome? = some (.ok ()) ↔ t.accepted = bytes) ∧
      (∀ e, t.outcome? = some (.error e) ↔
        ∃ passed a rest, answers = passed ++ a :: rest ∧ Writing.BrokenOff bytes passed a e) ∧
      (∀ passed a rest e, answers = passed ++ a :: rest → Writing.BrokenOff bytes passed a e →
        writeAll bytes answers = ⟨bytes.take (counted passed), .error e, rest⟩) ∧
      (t.outcome? = none →
        asked = answers ∧ answers.length < bytes.length + interruptions answers) ∧
      asked.length ≤ bytes.length + interruptions asked ∧
      (∀ others, Writing.withoutInterruptions others = Writing.withoutInterruptions answers →
        ((Writing.start bytes).run others).1.progress = t.progress ∧
        (writeAll bytes others).accepted = (writeAll bytes answers).accepted ∧
        (writeAll bytes others).result = (writeAll bytes answers).result) ∧
      writeAll bytes answers = t.finish unused ∧
      (writeAll bytes answers).accepted <+: bytes ∧
      ((writeAll bytes answers).result = .ok () ↔ (writeAll bytes answers).accepted = bytes) ∧
      ∀ (d : Descriptors Channel) (c : Channel) (w : World) (text : String),
        d.get? standardError = some c → utf8 text = bytes → w.writes = answers →
        Machine.report d w text =
          { (w.write c (writeAll bytes answers).accepted).2 with writes := unused } := by
  obtain ⟨asked, hanswers, hafter, hends⟩ := (Writing.after_start bytes).run answers
  rcases hrun : (Writing.start bytes).run answers with ⟨t, unused⟩
  rw [hrun] at hanswers hafter hends
  rw [List.nil_append] at hafter
  have hall : writeAll bytes answers = t.finish unused := by
    rw [Writing.writeAll_eq, hrun]
  refine ⟨t, asked, unused, rfl, hanswers, hafter.answers, hafter.given, ?begun,
    hafter.outcome?_eq_ok_iff_accepted, ?refused, ?failed, ?going, hafter.length_le,
    ?interrupted, hall, ?delivered, ?succeeded, ?reported⟩
  case begun => exact ⟨t.left, hafter.joined⟩
  case refused =>
    intro e
    exact hafter.outcome?_eq_error_iff_brokenOff hrun hanswers
  case failed =>
    intro passed a rest e hsplit hbroken
    obtain ⟨v, hv, houtcome, haccepted⟩ := Writing.run_of_brokenOff hbroken rest
    rw [hsplit, Writing.writeAll_eq, hv, Writing.finish_of_outcome houtcome, haccepted]
  case going =>
    intro hgoing
    obtain rfl : asked = answers := by
      rw [hanswers, hends hgoing, List.append_nil]
    exact ⟨rfl, hafter.length_lt hgoing⟩
  case interrupted =>
    intro others hothers
    have hsame : ((Writing.start bytes).run others).1.progress = t.progress := by
      rw [Writing.progress_run_congr hothers, hrun]
    have hfinish := Writing.finish_congr hsame
    rw [Writing.writeAll_eq bytes others, hall]
    exact ⟨hsame, hfinish _ _⟩
  case delivered =>
    rw [hall]
    exact hafter.finish_prefix unused
  case succeeded =>
    rw [hall]
    exact hafter.finish_ok_iff unused
  case reported =>
    intro d c w text hd htext hw
    rw [Machine.report, hd]
    simp only [htext, hw, hall, Writing.unused_finish hends]

/-- Four bytes of which three are taken, since the reader goes away after two writes. -/
example :
    writeAll [1, 2, 3, 4] [.took 1, .failed .interrupted, .took 2, .failed .brokenPipe, .took 1]
      = ⟨[1, 2, 3], .error .brokenPipe, [.took 1]⟩ := rfl

end ShellPipeline
