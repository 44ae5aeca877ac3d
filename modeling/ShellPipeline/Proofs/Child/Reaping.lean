import Mathlib.Logic.Function.Basic
import ShellPipeline.Machine.Host

/-!
# Waiting for one process

Whoever waits for a process asks the system about it until an answer settles what became of it. All
answers before that one are passed over. None is asked for after it, since the number of a process
that has been reaped may stand for another one.
-/

namespace ShellPipeline

namespace WaitAnswer

/-- An answer that ends the waiting, with what it says. -/
inductive Settles : WaitAnswer → Except Errno Exit → Prop
  | exited (code : Status) : Settles (.exited code) (.ok (.exited code))
  | signaled (signal : Int32) : Settles (.signaled signal) (.ok (.signaled signal))
  | failed {cause : Errno} (h : cause ≠ .interrupted) : Settles (.failed cause) (.error cause)

/-- An answer after which the process is asked about again. -/
inductive Passes : WaitAnswer → Prop
  | stopped (signal : Int32) : Passes (.stopped signal)
  | continued : Passes .continued
  | running : Passes .running
  | interrupted : Passes (.failed .interrupted)

variable {a : WaitAnswer} {v : Except Errno Exit}

/-- There is no third kind of answer. -/
theorem passes_or_settles (a : WaitAnswer) : a.Passes ∨ ∃ v, a.Settles v := by
  cases a with
  | exited code => exact Or.inr ⟨_, .exited code⟩
  | signaled signal => exact Or.inr ⟨_, .signaled signal⟩
  | stopped signal => exact Or.inl (.stopped signal)
  | continued => exact Or.inl .continued
  | running => exact Or.inl .running
  | failed cause =>
      by_cases h : cause = .interrupted
      · exact Or.inl (h ▸ .interrupted)
      · exact Or.inr ⟨_, .failed h⟩

theorem Settles.verdict?_eq (h : a.Settles v) : a.verdict? = some v := by
  cases h with
  | exited => rfl
  | signaled => rfl
  | failed h => exact if_neg h

theorem Passes.verdict?_eq (h : a.Passes) : a.verdict? = none := by
  cases h <;> rfl

end WaitAnswer

variable {passed rest answers : List WaitAnswer} {a : WaitAnswer} {v : Except Errno Exit}

/-- If any answer settles the matter, there is a first one that does. -/
theorem exists_first_settling (h : ∃ a ∈ answers, ∃ v, a.Settles v) :
    ∃ passed a v rest, answers = passed ++ a :: rest ∧ (∀ b ∈ passed, b.Passes) ∧
      a.Settles v := by
  induction answers with
  | nil =>
      obtain ⟨a, ha, -⟩ := h
      cases ha
  | cons a answers ih =>
      rcases a.passes_or_settles with hpasses | ⟨v, hsettles⟩
      · have hlater : ∃ b ∈ answers, ∃ v, b.Settles v := by
          obtain ⟨b, hb, v, hv⟩ := h
          rcases List.mem_cons.mp hb with rfl | hb
          · exact absurd (hpasses.verdict?_eq.symm.trans hv.verdict?_eq) nofun
          · exact ⟨b, hb, v, hv⟩
        obtain ⟨passed, b, v, rest, rfl, hpassed, hsettles⟩ := ih hlater
        exact ⟨a :: passed, b, v, rest, rfl, List.forall_mem_cons.mpr ⟨hpasses, hpassed⟩, hsettles⟩
      · exact ⟨[], a, v, answers, rfl, nofun, hsettles⟩

/-- Answers that settle nothing are as if they had not been given. -/
theorem awaitExit_of_passes (h : ∀ b ∈ passed, b.Passes) (rest : List WaitAnswer) :
    awaitExit (passed ++ rest) = awaitExit rest := by
  induction passed with
  | nil => rfl
  | cons b passed ih =>
      obtain ⟨hb, hpassed⟩ := List.forall_mem_cons.mp h
      rw [List.cons_append, awaitExit, hb.verdict?_eq]
      exact ih hpassed

/-- The first answer that settles the matter is the last one that is asked for. -/
theorem awaitExit_of_settles (h : a.Settles v) (rest : List WaitAnswer) :
    awaitExit (a :: rest) = (v, rest) := by
  rw [awaitExit, h.verdict?_eq]

/-! ## Asking the system -/

/-- What a system will answer about each process, and what it has been asked about so far with what
it has answered. -/
structure Reports where
  answers : Nat → List WaitAnswer
  asked : List (Nat × WaitAnswer) := []

namespace Reports

variable {r : Reports} {process index : Nat}

/-- Asks about a process once. There is no child left when there are no more answers. -/
def ask (r : Reports) (process : Nat) : WaitAnswer × Reports :=
  let answer := (r.answers process).headD (.failed .noChild)
  (answer, ⟨Function.update r.answers process (r.answers process).tail,
    r.asked ++ [(process, answer)]⟩)

theorem ask_of_answers (h : r.answers process = a :: rest) :
    r.ask process = (a, ⟨Function.update r.answers process rest, r.asked ++ [(process, a)]⟩) := by
  simp only [ask, h, List.headD_cons, List.tail_cons]

theorem ask_of_no_answers (h : r.answers process = []) :
    (r.ask process).1 = .failed .noChild := by
  simp only [ask, h, List.headD_nil]

def await (index process : Nat) (r : Reports) : Except Fault Exit × Reports :=
  match _ : (r.ask process).1.verdict? with
  | some v => (v.mapError (.wait index), (r.ask process).2)
  | none => await index process (r.ask process).2
termination_by (r.answers process).length
decreasing_by
  rename_i hnone
  rcases hanswers : r.answers process with _ | ⟨a, rest⟩
  · rw [ask_of_no_answers hanswers] at hnone
    cases hnone
  · simp [ask_of_answers hanswers]

/-- Waiting is asking once, and waiting again if the answer settles nothing. -/
theorem await_eq (index process : Nat) (r : Reports) :
    r.await index process = match (r.ask process).1.verdict? with
      | some v => (v.mapError (.wait index), (r.ask process).2)
      | none => await index process (r.ask process).2 := by
  rw [await]
  split
  · next v hv => rw [hv]
  · next hnone => rw [hnone]

theorem await_of_settles (h : r.answers process = a :: rest) (hsettles : a.Settles v) :
    r.await index process = (v.mapError (.wait index),
      ⟨Function.update r.answers process rest, r.asked ++ [(process, a)]⟩) := by
  rw [await_eq, ask_of_answers h, hsettles.verdict?_eq]

theorem await_of_passes (h : r.answers process = a :: rest) (hpasses : a.Passes) :
    r.await index process = await index process
      ⟨Function.update r.answers process rest, r.asked ++ [(process, a)]⟩ := by
  rw [await_eq, ask_of_answers h, hpasses.verdict?_eq]

/-- Asking the system one answer at a time comes to what all of its answers come to. -/
theorem fst_await (index : Nat) (h : r.answers process = answers) :
    (r.await index process).1 = (awaitExit answers).1.mapError (.wait index) := by
  induction answers generalizing r with
  | nil =>
      rw [await_eq, ask_of_no_answers h]
      rfl
  | cons a rest ih =>
      rcases a.passes_or_settles with hpasses | ⟨v, hsettles⟩
      · rw [await_of_passes h hpasses, ih (Function.update_self ..), awaitExit, hpasses.verdict?_eq]
      · rw [await_of_settles h hsettles, awaitExit_of_settles hsettles]

/-- A machine lets its processes run until the one that is waited for has ended, and then asks. -/
theorem fst_wait_eq (index process : Nat) (m : Machine) :
    (m.wait index process).1 = (await index process
      ⟨(m.run fun m => (m.process? process).all Process.hasEnded).waitAnswers, []⟩).1 := by
  rw [fst_await index rfl]
  rfl

/-- The system is asked about this process alone, up to the first answer that settles the matter. -/
theorem await_of_answers (index : Nat) (hanswers : r.answers process = passed ++ a :: rest)
    (hpassed : ∀ b ∈ passed, b.Passes) (hsettles : a.Settles v) :
    r.await index process = (v.mapError (.wait index),
      ⟨Function.update r.answers process rest,
        r.asked ++ (passed ++ [a]).map (Prod.mk process)⟩) := by
  induction passed generalizing r with
  | nil => exact await_of_settles hanswers hsettles
  | cons b passed ih =>
      obtain ⟨hb, hpassed⟩ := List.forall_mem_cons.mp hpassed
      rw [await_of_passes hanswers hb, ih (Function.update_self ..) hpassed,
        Function.update_idem, List.append_assoc]
      rfl

/-- If any answer about a process settles what became of it, then waiting for it asks about it, and
about no other process, up to the first such answer and no further, and comes to what that answer
says. What is answered before makes no difference. A machine that has these answers waits for its
process with the same outcome. -/
theorem await_reaps_once (index process : Nat) (r : Reports)
    (h : ∃ a ∈ r.answers process, ∃ v, a.Settles v) :
    ∃ passed a v rest, r.answers process = passed ++ a :: rest ∧ (∀ b ∈ passed, b.Passes) ∧
      a.Settles v ∧ awaitExit (r.answers process) = (v, rest) ∧
      r.await index process = (v.mapError (.wait index),
        ⟨Function.update r.answers process rest,
          r.asked ++ (passed ++ [a]).map (Prod.mk process)⟩) ∧
      (∀ (t : Reports) (passed' rest' : List WaitAnswer), (∀ b ∈ passed', b.Passes) →
        t.answers process = passed' ++ a :: rest' →
        (t.await index process).1 = v.mapError (.wait index)) ∧
      ∀ m : Machine, (m.run fun m => (m.process? process).all Process.hasEnded).waitAnswers process
          = r.answers process → (m.wait index process).1 = v.mapError (.wait index) := by
  obtain ⟨passed, a, v, rest, hanswers, hpassed, hsettles⟩ := exists_first_settling h
  have hexit : awaitExit (r.answers process) = (v, rest) := by
    rw [hanswers, awaitExit_of_passes hpassed, awaitExit_of_settles hsettles]
  have houtcome : ∀ (t : Reports) (passed' rest' : List WaitAnswer), (∀ b ∈ passed', b.Passes) →
      t.answers process = passed' ++ a :: rest' →
      (t.await index process).1 = v.mapError (.wait index) := by
    intro t passed' rest' hpassed' ht
    rw [await_of_answers index ht hpassed' hsettles]
  refine ⟨passed, a, v, rest, hanswers, hpassed, hsettles, hexit,
    await_of_answers index hanswers hpassed hsettles, houtcome, ?_⟩
  intro m hm
  rw [fst_wait_eq]
  exact houtcome _ passed rest hpassed (hm.trans hanswers)

/-- A process that is stopped, goes on and is then killed, and an answer about another process that
has got its number. -/
def killed : Reports :=
  ⟨fun _ => [.stopped 19, .failed .interrupted, .continued, .signaled 9, .exited 0], []⟩

/-- The last answer is not asked for. -/
theorem await_reaps_once_killed :
    (∃ a ∈ killed.answers 7, ∃ v, a.Settles v) ∧
      (killed.await 2 7).1 = .ok (.signaled 9) ∧
      (killed.await 2 7).2.answers 7 = [.exited 0] ∧
      (killed.await 2 7).2.asked =
        [(7, .stopped 19), (7, .failed .interrupted), (7, .continued), (7, .signaled 9)] := by
  have hsettled : ∃ a ∈ killed.answers 7, ∃ v, a.Settles v :=
    ⟨.signaled 9, by simp [killed], _, .signaled 9⟩
  obtain ⟨passed, a, v, rest, hanswers, -, -, hexit, hawait, -⟩ :=
    await_reaps_once 2 7 killed hsettled
  obtain ⟨rfl, rfl⟩ : v = .ok (.signaled 9) ∧ rest = [.exited 0] := by
    cases hexit
    exact ⟨rfl, rfl⟩
  have hasked : passed ++ [a]
      = [.stopped 19, .failed .interrupted, .continued, .signaled 9] :=
    List.append_cancel_right ((List.append_assoc ..).trans hanswers.symm)
  rw [hawait, hasked]
  exact ⟨hsettled, rfl, rfl, rfl⟩

end Reports

end ShellPipeline
