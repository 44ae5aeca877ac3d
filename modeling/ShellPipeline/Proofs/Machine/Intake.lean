import ShellPipeline.Machine.Shell
import ShellPipeline.Proofs.Session.Intake

/-!
# Machines whose shell reads a pipe

A pipe that nobody writes any more holds what is left to read. Reading takes from it, and no other
request of the shell for its own sake has to do with pipes.
-/

namespace ShellPipeline

theorem Queue.size_take (q : Queue) (count : Nat) : (q.take count).2.size = q.size - count := by
  rw [take]
  split <;> rfl

namespace World

variable {w : World} {bytes : Bytes} {pipe : Nat}

/-- The standard input of the shell is a pipe that holds these bytes. -/
def Feeds (w : World) (bytes : Bytes) : Prop :=
  ∃ pipe p, w.input = .reader pipe ∧ w.pipes[pipe]? = some p ∧ p.content.toBytes = bytes ∧
    p.content.size = bytes.length

def drained (w : World) : World :=
  { w with pipes := match w.input with
      | .reader pipe => w.pipes.modify pipe fun p => { p with content := {} }
      | _ => w.pipes }

theorem readInput_eq (hinput : w.input = .reader pipe) {p : Pipe} (hp : w.pipes[pipe]? = some p)
    (count : Nat) : w.readInput count = ((p.content.take count).1,
      w.updatePipe pipe fun p' => { p' with content := (p.content.take count).2 }) := by
  simp only [readInput, hinput, read, hp]
  rfl

/-- A read from a pipe gives as many bytes as were asked for, or all that are left. -/
theorem Feeds.read (h : w.Feeds bytes) (count : Nat) :
    (w.readInput count).1 = bytes.take count ∧
      (w.readInput count).2.Feeds (bytes.drop count) := by
  obtain ⟨pipe, p, hinput, hp, rfl, hsize⟩ := h
  rw [readInput_eq hinput hp]
  refine ⟨Queue.take_fst _ _, pipe, { p with content := (p.content.take count).2 }, hinput,
    ?_, ?_, ?_⟩
  · simp [updatePipe, Array.getElem?_modify, hp]
  · exact Queue.toBytes_take _ _
  · rw [Queue.size_take, hsize, List.length_drop]

theorem Feeds.pending (h : w.Feeds bytes) : w.pendingInput = bytes.length := by
  obtain ⟨pipe, p, hinput, hp, rfl, hsize⟩ := h
  simp [pendingInput, hinput, available, hp, hsize]

theorem Feeds.drained_read (h : w.Feeds bytes) (count : Nat) :
    (w.readInput count).2.drained = w.drained := by
  obtain ⟨pipe, p, hinput, hp, -, -⟩ := h
  rw [readInput_eq hinput hp]
  simp only [drained, hinput, updatePipe]
  congr 1
  apply Array.ext_getElem?
  intro n
  simp only [Array.getElem?_modify]
  split
  · simp [Option.map_map, Function.comp_def]
  · rfl

theorem enter_drained (path : String) (w : World) :
    w.drained.enter path = ((w.enter path).1, (w.enter path).2.drained) := by
  simp only [enter, drained]
  split
  · rfl
  · split <;> rfl

theorem Feeds.enter (h : w.Feeds bytes) (path : String) : (w.enter path).2.Feeds bytes := by
  unfold World.enter
  split
  · exact h
  · split <;> exact h

end World

namespace Machine

def pipeIntake : Intake Machine where
  Holds m bytes := m.world.Feeds bytes
  drained m := { m with world := m.world.drained }
  read {m bytes} count h := by
    obtain ⟨htaken, hleft⟩ := h.read count
    refine ⟨bytes.drop count, ?_, hleft⟩
    exact (List.take_append_drop count bytes).symm.trans (congrArg (· ++ _) htaken.symm)
  read_nil {m bytes} count h hcount hnone := by
    have htaken := (h.read count).1.symm.trans hnone
    exact (List.take_eq_nil_iff.mp htaken).resolve_left (Nat.ne_of_gt hcount)
  pending h := Nat.le_of_eq h.pending.symm
  drained_read {m bytes} count h := congrArg (fun w => { m with world := w })
    (h.drained_read count)

theorem pipeIntake_apart : pipeIntake.Apart where
  print _ h := h
  drained_print _ _ := rfl
  report _ h := h
  drained_report _ _ := rfl
  enter path h := h.enter path
  enter_drained path m := by
    have hsame := World.enter_drained path m.world
    simp only [pipeIntake, Console.enter, onWorld, hsame]
  directory_drained _ := rfl
  home_drained _ := rfl

def shellReading (bytes : Bytes) : Session Machine Channel Nat :=
  let w : World := { input := .reader 0, pipes := #[{ content := .ofBytes bytes }] }
  { shell := .ofHost (ofWorld w) w }

/-- The bytes in the pipe are those that the shell has still to read. -/
theorem left_shellReading (bytes : Bytes) : (shellReading bytes).Left pipeIntake bytes :=
  ⟨bytes, rfl, 0, _, rfl, rfl, Queue.toBytes_ofBytes bytes, rfl⟩

end Machine

end ShellPipeline
