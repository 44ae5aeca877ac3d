import ShellPipeline.Builtin.Standard
import ShellPipeline.Proofs.Text.Numeral

/-!
# Leaving with a given status

The shell can be asked to leave with any status that a numeral stands for, and with nothing else.
As the limits of a status are not symmetric, the sign is looked at before the value is.
-/

namespace ShellPipeline

/-! ## Statuses as numerals -/

/-- A text is read as a status exactly if it is a numeral for an integer of 32 bits. -/
theorem readStatus?_eq_some_iff {text : String} {v : Status} :
    readStatus? text = some v ↔ IsNumeral text v.toInt := by
  rw [← readSigned?_eq_some_iff, readStatus?, Int32.toInt_minValue, Int32.toInt_maxValue]
  cases hread : readSigned? text.toList with
  | none => simp
  | some i =>
      simp only [Option.ite_none_right_eq_some, Option.some.injEq]
      constructor
      · rintro ⟨⟨hlow, hhigh⟩, rfl⟩
        exact (Int32.toInt_ofInt_of_le hlow (by omega)).symm
      · rintro rfl
        have hhigh := v.toInt_lt
        exact ⟨⟨v.le_toInt, by omega⟩, Int32.ofInt_toInt v⟩

theorem readStatus?_eq_none_iff {text : String} :
    readStatus? text = none ↔ ∀ v : Status, ¬ IsNumeral text v.toInt := by
  simp only [Option.eq_none_iff_forall_ne_some, ne_eq, readStatus?_eq_some_iff]

/-- An integer between the limits is one that a status has. -/
theorem exists_toInt_eq_iff {i : Int} :
    (∃ v : Status, v.toInt = i) ↔ -2 ^ 31 ≤ i ∧ i ≤ 2 ^ 31 - 1 := by
  constructor
  · rintro ⟨v, rfl⟩
    have hhigh := v.toInt_lt
    exact ⟨v.le_toInt, by omega⟩
  · rintro ⟨hlow, hhigh⟩
    exact ⟨.ofInt i, Int32.toInt_ofInt_of_le hlow (by omega)⟩

namespace Builtin

variable {σ α η : Type} [Console σ]

/-- A numeral that fits is the status with which the shell is left, and nothing is said. -/
theorem exit_of_isNumeral (name : String) {code : String} {v : Status}
    (h : IsNumeral code v.toInt) (last : Status) (asked : Bool) (s : Session σ α η) :
    exit [name, code] last asked s = (⟨v, true⟩, s) := by
  rw [← readStatus?_eq_some_iff] at h
  simp only [exit, h]

/-- Any other word is refused: a message, the status 2, and whether the shell was asked to exit
stays as it was. -/
theorem exit_of_not_isNumeral (name : String) {code : String}
    (h : ∀ v : Status, ¬ IsNumeral code v.toInt) (last : Status) (asked : Bool)
    (s : Session σ α η) : exit [name, code] last asked s =
      (⟨2, asked⟩, s.complain ("exit: " ++ code ++ ": numeric argument required")) := by
  rw [← readStatus?_eq_none_iff] at h
  simp only [exit, h]

/-- The shell is asked to leave with a status if and only if that status is what a numeral stands
for. A word that is no numeral, or stands for too large or too small an integer, is refused without
such a request. What is shown of a status is a numeral of it. -/
theorem exit_accepts_numerals (name code : String) (last : Status) (asked : Bool)
    (s : Session σ α η) :
    (∀ v : Status, (exit [name, code] last false s).1 = ⟨v, true⟩ ↔ IsNumeral code v.toInt) ∧
    (∀ i, IsNumeral code i → -2 ^ 31 ≤ i → i ≤ 2 ^ 31 - 1 →
      ∃ v : Status, v.toInt = i ∧ exit [name, code] last asked s = (⟨v, true⟩, s)) ∧
    ((∀ i, IsNumeral code i → i < -2 ^ 31 ∨ 2 ^ 31 - 1 < i) →
      exit [name, code] last asked s =
        (⟨2, asked⟩, s.complain ("exit: " ++ code ++ ": numeric argument required"))) ∧
    ∀ (n : Status) (words : List String),
      status words n asked s = (⟨n, asked⟩, s.print (toString n.toInt ++ "\n")) ∧
      exit [name, toString n.toInt] last asked s = (⟨n, true⟩, s) := by
  refine ⟨fun v => ?_, fun i hi hlow hhigh => ?_, fun hnone => ?_, fun n words => ⟨?_, ?_⟩⟩
  · by_cases hnumeral : ∃ w : Status, IsNumeral code w.toInt
    · obtain ⟨w, hw⟩ := hnumeral
      rw [exit_of_isNumeral name hw]
      constructor
      · intro h
        cases h
        exact hw
      · intro hv
        rw [Int32.toInt_inj.mp (hw.unique hv)]
    · rw [not_exists] at hnumeral
      rw [exit_of_not_isNumeral name hnumeral]
      constructor
      · intro h
        cases h
      · intro hv
        exact absurd hv (hnumeral v)
  · obtain ⟨v, rfl⟩ := exists_toInt_eq_iff.mpr ⟨hlow, hhigh⟩
    exact ⟨v, rfl, exit_of_isNumeral name hi last asked s⟩
  · apply exit_of_not_isNumeral
    intro v hv
    have hlimits := exists_toInt_eq_iff.mp ⟨v, rfl⟩
    have hbeyond := hnone v.toInt hv
    omega
  · rw [status, decimalInt_eq]
  · rw [← decimalInt_eq]
    exact exit_of_isNumeral name (isNumeral_decimalInt n.toInt) last asked s

example : readStatus? "-0002147483648" = some (-2147483648) ∧ readStatus? "2147483648" = none := by
  decide

end Builtin

end ShellPipeline
