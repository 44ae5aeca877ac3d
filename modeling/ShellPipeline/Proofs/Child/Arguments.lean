import Mathlib.Data.List.Forall2
import ShellPipeline.Machine.Shell
import ShellPipeline.Proofs.Run.Connection

/-!
# What programs find in their argument vectors

A word without a NUL ends where its vector says that it ends, so a program finds the words that its
stage has. Words that cannot be passed are noticed before there is a process, and then the shell
does nothing but close what the stage was connected to.
-/

namespace ShellPipeline

/-! ## Bytes of words -/

theorem zero_eq_ofNat_iff {n : Nat} (h : n < 256) : (0 : UInt8) = UInt8.ofNat n ↔ n = 0 := by
  rw [← UInt8.toNat_inj, UInt8.toNat_ofNat_of_lt' h]
  simp [eq_comm]

/-- No character but NUL has a zero among its bytes. -/
theorem zero_mem_utf8EncodeChar_iff (c : Char) :
    (0 : UInt8) ∈ String.utf8EncodeChar c ↔ c = '\x00' := by
  constructor
  · intro h
    have hval : c.val.toNat = 0 := by
      unfold String.utf8EncodeChar at h
      dsimp only at h
      have hlt : c.val.toNat < 0x110000 := by
        have hvalid := c.valid
        simp only [UInt32.isValidChar, Nat.isValidChar] at hvalid
        omega
      split_ifs at h
      · simpa (disch := omega) only [List.mem_singleton, zero_eq_ofNat_iff] using h
      -- every byte of a longer form has its highest bit set
      all_goals
        simp (disch := omega) only [List.mem_cons, zero_eq_ofNat_iff, List.not_mem_nil,
          or_false] at h
        omega
    exact Char.ext (UInt32.toNat_inj.mp hval)
  · rintro rfl
    decide

/-- Only the NUL character has a zero byte. -/
theorem zero_mem_utf8_iff (s : String) : (0 : UInt8) ∈ utf8 s ↔ '\x00' ∈ s.toList := by
  simp [utf8, zero_mem_utf8EncodeChar_iff]

theorem utf8_injective : Function.Injective utf8 := by
  intro s t h
  have hbytes : s.toList.utf8Encode = t.toList.utf8Encode := congrArg List.toByteArray h
  rw [← String.toByteArray_ofList, ← String.toByteArray_ofList, String.ofList_toList,
    String.ofList_toList] at hbytes
  exact String.toByteArray_inj.mp hbytes

theorem hasNul_iff (word : String) : hasNul word = true ↔ '\x00' ∈ word.toList := by
  simp [hasNul]

/-- A word without a NUL is read as it is, whatever follows it in the memory. -/
theorem takeWhile_terminated {word : String} (h : '\x00' ∉ word.toList) (memory : Bytes) :
    (terminated word ++ memory).takeWhile (· ≠ 0) = utf8 word := by
  have hbytes : ∀ b ∈ utf8 word, decide (b ≠ 0) = true := by
    intro b hb
    have hne : b ≠ 0 := by
      rintro rfl
      exact h ((zero_mem_utf8_iff word).mp hb)
    simpa using hne
  rw [terminated, List.append_assoc, List.takeWhile_append_of_pos hbytes]
  simp

/-! ## Vectors -/

section Vectors

variable {argv : List String} {index : Nat} {stage : Stage} {v : ArgumentVector} {f : Fault}

/-- Words can be ended by NULs exactly if none of them holds one. -/
theorem terminatedWords_eq_ok_iff {words : List Bytes} :
    terminatedWords argv = .ok words ↔
      (∀ word ∈ argv, '\x00' ∉ word.toList) ∧ words = argv.map terminated := by
  have hnone : argv.find? hasNul = none ↔ ∀ word ∈ argv, '\x00' ∉ word.toList := by
    simp only [List.find?_eq_none, hasNul_iff]
  rw [← hnone, terminatedWords]
  cases h : argv.find? hasNul with
  | none => simp [eq_comm]
  | some word => simp

def FirstWithNul (argv : List String) (word : String) : Prop :=
  ∃ before after, argv = before ++ word :: after ∧ '\x00' ∈ word.toList ∧
    ∀ earlier ∈ before, '\x00' ∉ earlier.toList

theorem terminatedWords_eq_error_iff {word : String} :
    terminatedWords argv = .error word ↔ FirstWithNul argv word := by
  have hsome : terminatedWords argv = .error word ↔ argv.find? hasNul = some word := by
    rw [terminatedWords]
    cases h : argv.find? hasNul with
    | none => simp
    | some word => simp
  rw [hsome, List.find?_eq_some_iff_append]
  simp only [FirstWithNul, hasNul_iff, Bool.not_eq_true', Bool.eq_false_iff, ne_eq]
  constructor
  · rintro ⟨hword, before, after, hargv, hbefore⟩
    exact ⟨before, after, hargv, hword, hbefore⟩
  · rintro ⟨before, after, hargv, hword, hbefore⟩
    exact ⟨hword, before, after, hargv, hbefore⟩

namespace ArgumentVector

/-- The words of a stage can be passed: there are some, and none holds a NUL. -/
def Passable (argv : List String) : Prop :=
  argv ≠ [] ∧ ∀ word ∈ argv, '\x00' ∉ word.toList

/-- A vector holds the words of its stage in order, and then the null entry. -/
theorem ofStage_eq_ok_iff :
    ofStage index stage = .ok v ↔
      Passable stage.argv ∧ v = ⟨(stage.argv.map terminated).map some ++ [none]⟩ := by
  unfold ofStage
  by_cases hempty : stage.argv = []
  · simp [Passable, hempty]
  · rw [if_neg (by simpa using hempty)]
    cases hwords : terminatedWords stage.argv with
    | error word =>
        have hnot : ¬ ∀ word ∈ stage.argv, '\x00' ∉ word.toList := by
          intro hall
          cases hwords.symm.trans (terminatedWords_eq_ok_iff.mpr ⟨hall, rfl⟩)
        simp [Passable, hnot]
    | ok words =>
        obtain ⟨hall, rfl⟩ := terminatedWords_eq_ok_iff.mp hwords
        simp only [Passable, ne_eq, hempty, not_false_eq_true, true_and, Except.ok.injEq]
        exact ⟨fun h => ⟨hall, h.symm⟩, fun h => h.2.symm⟩

/-- A stage has no vector for two reasons: it has no words, or the first one with a NUL is named. -/
theorem ofStage_eq_error_iff :
    ofStage index stage = .error f ↔
      stage.argv = [] ∧ f = .emptyArgv index ∨
        ∃ word, FirstWithNul stage.argv word ∧ f = .nulInArgument index word := by
  unfold ofStage
  by_cases hempty : stage.argv = []
  · have hnone : ∀ word, ¬ FirstWithNul [] word := by
      rintro word ⟨before, after, hargv, -⟩
      simp at hargv
    simp [hempty, hnone, eq_comm]
  · rw [if_neg (by simpa using hempty)]
    simp only [← terminatedWords_eq_error_iff, hempty, false_and, false_or]
    cases terminatedWords stage.argv with
    | error word => simp [eq_comm]
    | ok words => simp

/-- A program finds the bytes of the words of its stage. -/
theorem arguments_of_ofStage (h : ofStage index stage = .ok v) :
    v.arguments = stage.argv.map utf8 := by
  obtain ⟨⟨-, hall⟩, rfl⟩ := ofStage_eq_ok_iff.mp h
  have hsome : ∀ entry ∈ (stage.argv.map terminated).map some, entry.isSome = true := by
    intro entry hentry
    obtain ⟨bytes, -, rfl⟩ := List.mem_map.mp hentry
    rfl
  rw [arguments, List.takeWhile_append_of_pos hsome]
  have hread : ∀ word ∈ stage.argv, (terminated word).takeWhile (· ≠ 0) = utf8 word := by
    intro word hword
    simpa using takeWhile_terminated (hall word hword) []
  simpa [Function.comp_def] using List.map_congr_left hread

end ArgumentVector

end Vectors

/-! ## No process without words -/

namespace Machine

/-- The numbers of the processes that there are, and the next one that will be given. -/
def census (m : Machine) : List Nat × Nat :=
  (m.processes.map Process.number, m.next)

theorem census_wake (m : Machine) : m.wake.census = m.census := by
  have hnumber : ∀ p ∈ m.processes, (if p.phase = .waiting && m.canGoOn p then
      { p with phase := .ready, moment := m.clock + wakeTime } else p).number = p.number := by
    intro p _
    split <;> rfl
  simp only [census, wake, List.map_map]
  exact congrArg (·, m.next) (List.map_congr_left hnumber)

theorem census_closeAll (s : Shell Machine Channel Nat) (fds : List Nat) :
    (s.closeAll fds).host.census = s.host.census := by
  induction fds generalizing s with
  | nil => rfl
  | cons fd fds ih =>
      have hclose : (s.close fd).host.census = s.host.census := by
        unfold Shell.close
        cases s.descriptors.get? fd with
        | none => rfl
        | some c => exact census_wake _
      exact (ih (s.close fd)).trans hclose

/-- A stage whose words cannot be passed leaves no trace on the machine. -/
theorem spawn_of_ofStage_eq_error {l : Launch Channel} {f : Fault}
    (h : ArgumentVector.ofStage l.index l.stage = .error f) (m : Machine) :
    spawn l m = (.error f, m) := by
  simp only [spawn, h]

end Machine

/-- Words are passed exactly if there are some and none holds a NUL. Then their vector ends with a
null entry and has one string for each word, which is read as the bytes of the word wherever it
stands in the memory. Otherwise the first reason is given, no process is created, and the shell
closes what the stage is connected to. -/
theorem ArgumentVector.ofStage_passes_words (index : Nat) (stage : Stage) :
    ((∃ v, ofStage index stage = .ok v) ↔
      stage.argv ≠ [] ∧ ∀ word ∈ stage.argv, '\x00' ∉ word.toList) ∧
    (∀ v, ofStage index stage = .ok v →
      (∃ strings : List Bytes, v.entries = strings.map some ++ [none] ∧
        List.Forall₂ (fun word string => ∀ memory : Bytes,
          (string ++ memory).takeWhile (· ≠ 0) = utf8 word) stage.argv strings) ∧
      v.arguments = stage.argv.map utf8 ∧
      ∀ index' stage', ofStage index' stage' = .ok v → stage'.argv = stage.argv) ∧
    (∀ f, ofStage index stage = .error f ↔
      stage.argv = [] ∧ f = .emptyArgv index ∨
        ∃ word, FirstWithNul stage.argv word ∧ f = .nulInArgument index word) ∧
    ∀ f, ofStage index stage = .error f →
      ∀ (s : Shell Machine Channel Nat) (r : Resolved), ∃ t,
        s.spawn index stage r = (.error f, t) ∧
        t.host.census = s.host.census ∧
        t.events = s.events ++ s.attempt index stage r (.error f) ::
          r.wiring.descriptors.map .close ∧
        ∀ fd, t.descriptors.get? fd =
          if fd ∈ r.wiring.descriptors then none else s.descriptors.get? fd := by
  refine ⟨?passed, ?vector, fun f => ofStage_eq_error_iff, ?refused⟩
  case passed =>
    constructor
    · rintro ⟨v, hv⟩
      exact (ofStage_eq_ok_iff.mp hv).1
    · intro hpassable
      exact ⟨_, ofStage_eq_ok_iff.mpr ⟨hpassable, rfl⟩⟩
  case vector =>
    intro v hv
    have hargs := arguments_of_ofStage hv
    obtain ⟨⟨-, hall⟩, hentries⟩ := ofStage_eq_ok_iff.mp hv
    refine ⟨⟨stage.argv.map terminated, congrArg entries hentries, ?_⟩, hargs, ?_⟩
    · rw [List.forall₂_map_right_iff, List.forall₂_same]
      exact fun word hword => takeWhile_terminated (hall word hword)
    · intro index' stage' hv'
      have hsame := (arguments_of_ofStage hv').symm.trans hargs
      exact List.map_injective_iff.mpr utf8_injective hsame
  case refused =>
    intro f hf s r
    have hspawn : Host.spawn ⟨index, stage, r, s.descriptors⟩ s.host = (.error f, s.host) :=
      Machine.spawn_of_ofStage_eq_error hf s.host
    set u := s.note (s.attempt index stage r (.error f)) with hu
    refine ⟨u.closeAll r.wiring.descriptors, ?_, Machine.census_closeAll u _, ?_, ?_⟩
    · simp only [Shell.spawn, hspawn]
      rfl
    · simp [hu, Shell.note]
    · exact u.get?_closeAll_eq r.wiring.descriptors

end ShellPipeline
