import ShellPipeline.Proofs.Machine.Intake

/-!
# Machines whose shell reads a terminal

What was typed on a terminal comes line by line, and after the last line the input ends. Apart from
that, a shell on a terminal has the same to read as one that reads a pipe.
-/

namespace ShellPipeline

/-- A read gives the first bytes that were typed, and none only when there are none. -/
theorem Terminal.read_cases {pieces : List Bytes} (h : [] ∉ pieces) (count : Nat) :
    pieces.flatten = (read pieces count).1 ++ (read pieces count).2.flatten ∧
      [] ∉ (read pieces count).2 ∧ (0 < count → (read pieces count).1 = [] → pieces = []) := by
  cases pieces with
  | nil => exact ⟨rfl, h, fun _ _ => rfl⟩
  | cons piece rest =>
      obtain ⟨hpiece, hrest⟩ := not_or.mp (List.mem_cons.not.mp h)
      have hcut : (piece :: rest).flatten
          = piece.take count ++ (piece.drop count ++ rest.flatten) := by
        rw [List.flatten_cons, ← List.append_assoc, List.take_append_drop]
      have hread : 0 < count → (read (piece :: rest) count).1 = [] → piece :: rest = [] := by
        intro hcount hnone
        rcases List.take_eq_nil_iff.mp hnone with rfl | hempty
        · exact absurd hcount (Nat.lt_irrefl 0)
        · exact absurd hempty.symm hpiece
      simp only [read]
      cases hleft : piece.drop count with
      | nil =>
          rw [hleft, List.nil_append] at hcut
          exact ⟨hcut, hrest, hread⟩
      | cons b left =>
          rw [hleft] at hcut
          exact ⟨hcut, fun hmem => hrest ((List.mem_cons.mp hmem).resolve_left nofun), hread⟩

namespace World

variable {w : World} {bytes : Bytes}

/-- These bytes were typed on the terminal from which the shell reads. -/
def Types (w : World) (bytes : Bytes) : Prop :=
  w.input = .terminal ∧ w.typed.flatten = bytes ∧ [] ∉ w.typed

def emptied (w : World) : World :=
  { w.drained with typed := [] }

theorem readInput_of_terminal (h : w.input = .terminal) (count : Nat) : w.readInput count =
    ((Terminal.read w.typed count).1, { w with typed := (Terminal.read w.typed count).2 }) := by
  simp only [readInput, h, read]
  rfl

theorem Types.read (h : w.Types bytes) (count : Nat) :
    ∃ rest, bytes = (w.readInput count).1 ++ rest ∧ (w.readInput count).2.Types rest := by
  obtain ⟨hinput, rfl, hpieces⟩ := h
  obtain ⟨hcut, hrest, -⟩ := Terminal.read_cases hpieces count
  rw [readInput_of_terminal hinput]
  exact ⟨_, hcut, hinput, rfl, hrest⟩

theorem Types.read_nil (h : w.Types bytes) {count : Nat} (hcount : 0 < count)
    (hnone : (w.readInput count).1 = []) : bytes = [] := by
  obtain ⟨hinput, rfl, hpieces⟩ := h
  rw [readInput_of_terminal hinput] at hnone
  rw [(Terminal.read_cases hpieces count).2.2 hcount hnone]
  rfl

theorem Types.pending (h : w.Types bytes) : bytes.length ≤ w.pendingInput := by
  obtain ⟨hinput, rfl, -⟩ := h
  simp only [pendingInput, hinput]
  exact Nat.le_add_right _ _

theorem Types.emptied_read (h : w.Types bytes) (count : Nat) :
    (w.readInput count).2.emptied = w.emptied := by
  rw [readInput_of_terminal h.1]
  rfl

theorem Types.enter (h : w.Types bytes) (path : String) : (w.enter path).2.Types bytes := by
  unfold World.enter
  split
  · exact h
  · split <;> exact h

theorem enter_emptied (path : String) (w : World) :
    w.emptied.enter path = ((w.enter path).1, (w.enter path).2.emptied) := by
  simp only [World.enter, emptied, drained]
  split
  · rfl
  · split <;> rfl

end World

namespace Machine

def shellIntake : Intake Machine where
  Holds m bytes := m.world.Feeds bytes ∨ m.world.Types bytes
  drained m := { m with world := m.world.emptied }
  read {m bytes} count h := by
    rcases h with h | h
    · have hfeeds : pipeIntake.Holds m bytes := h
      obtain ⟨rest, hcut, hrest⟩ := pipeIntake.read count hfeeds
      exact ⟨rest, hcut, Or.inl hrest⟩
    · obtain ⟨rest, hcut, hrest⟩ := h.read count
      exact ⟨rest, hcut, Or.inr hrest⟩
  read_nil {m bytes} count h hcount hnone := by
    rcases h with h | h
    · have hfeeds : pipeIntake.Holds m bytes := h
      exact pipeIntake.read_nil count hfeeds hcount hnone
    · exact h.read_nil hcount hnone
  pending h := h.elim (fun h => Nat.le_of_eq h.pending.symm) World.Types.pending
  drained_read {m bytes} count h := by
    rcases h with h | h
    · exact congrArg (fun w => { m with world := { w with typed := [] } }) (h.drained_read count)
    · exact congrArg (fun w => { m with world := w }) (h.emptied_read count)

theorem shellIntake_apart : shellIntake.Apart where
  print _ h := h
  drained_print _ _ := rfl
  report _ h := h
  drained_report _ _ := rfl
  enter path h := h.imp (·.enter path) (·.enter path)
  enter_drained path m := by
    have hsame := World.enter_emptied path m.world
    simp only [shellIntake, Console.enter, onWorld, hsame]
  directory_drained _ := rfl
  home_drained _ := rfl

def shellTyped (pieces : List Bytes) : Session Machine Channel Nat :=
  let w : World := { input := .terminal, typed := pieces }
  { shell := .ofHost (ofWorld w) w }

/-- The lines that were typed are those that the shell has still to read. -/
theorem left_shellTyped {pieces : List Bytes} (h : [] ∉ pieces) :
    (shellTyped pieces).Left shellIntake pieces.flatten :=
  ⟨pieces.flatten, rfl, Or.inr ⟨rfl, rfl, h⟩⟩

end Machine

end ShellPipeline
