import Mathlib.Data.Nat.Digits.Defs
import ShellPipeline.Text.Numeral

/-!
# Decimal numerals

A number is written as its ordinary decimal numeral. What can be read is any row of ASCII digits
with one sign or none before it, whatever zeros it begins with, and it is read as the integer that
the digits stand for by their places.
-/

namespace ShellPipeline

/-! ## Writing -/

theorem digitChar_eq {d : Nat} (h : d < 10) : digitChar d = Nat.digitChar d := by
  have htoNat := Nat.toNat_digitChar_of_lt_ten h
  rw [digitChar, ← Char.ofNat_toNat d.digitChar, htoNat]
  rfl

theorem decimalDigits_eq (n : Nat) : decimalDigits n = Nat.toDigits 10 n := by
  fun_induction decimalDigits n with
  | case1 n h => rw [digitChar_eq h, Nat.toDigits_of_lt_base h]
  | case2 n h ih =>
      have hlast : n % 10 < 10 := Nat.mod_lt n (by decide)
      have hlong : 10 ≤ n := Nat.le_of_not_lt h
      rw [ih, digitChar_eq hlast, Nat.toDigits_of_base_le (by decide) hlong]

theorem decimal_eq (n : Nat) : decimal n = toString n := by
  rw [decimal, decimalDigits_eq, Nat.toString_eq_ofList_toDigits]

theorem decimalInt_eq (i : Int) : decimalInt i = toString i := by
  unfold decimalInt
  cases i with
  | ofNat n => exact decimal_eq n
  | negSucc n =>
      rw [if_pos (Int.negSucc_lt_zero n)]
      exact congrArg ("-" ++ ·) (decimal_eq (n + 1))

/-! ## Reading -/

theorem isDigit_iff {c : Char} : c.isDigit = true ↔ ∃ d < 10, c = Nat.digitChar d := by
  constructor
  · intro h
    obtain ⟨hlow, hhigh⟩ := Char.isDigit_iff_toNat.mp h
    have hzero : '0'.toNat = 48 := rfl
    have hnine : '9'.toNat = 57 := rfl
    have hd : c.toNat - 48 < 10 := by omega
    refine ⟨c.toNat - 48, hd, ?_⟩
    rw [← Char.toNat_inj, Nat.toNat_digitChar_of_lt_ten hd]
    omega
  · rintro ⟨d, hd, rfl⟩
    simpa [Nat.isDigit_digitChar] using hd

theorem all_isDigit_iff {l : List Char} :
    l.all Char.isDigit = true ↔ ∃ digits : List Nat, (∀ d ∈ digits, d < 10) ∧
      l = digits.map Nat.digitChar := by
  constructor
  · intro h
    induction l with
    | nil => exact ⟨[], by simp, rfl⟩
    | cons c l ih =>
        rw [List.all_cons, Bool.and_eq_true] at h
        obtain ⟨d, hd, rfl⟩ := isDigit_iff.mp h.1
        obtain ⟨digits, hdigits, rfl⟩ := ih h.2
        exact ⟨d :: digits, List.forall_mem_cons.mpr ⟨hd, hdigits⟩, rfl⟩
  · rintro ⟨digits, hdigits, rfl⟩
    rw [List.all_eq_true]
    intro c hc
    obtain ⟨d, hd, rfl⟩ := List.mem_map.mp hc
    exact isDigit_iff.mpr ⟨d, hdigits d hd, rfl⟩

/-- Digits are added up from the left as they count by their places. -/
theorem foldl_digits {digits : List Nat} (h : ∀ d ∈ digits, d < 10) :
    (digits.map Nat.digitChar).foldl (fun n c => 10 * n + digitValue c) 0
      = Nat.ofDigits 10 digits.reverse := by
  change Nat.ofDigitChars 10 (digits.map Nat.digitChar) 0 = _
  induction digits with
  | nil => rfl
  | cons d digits ih =>
      obtain ⟨hd, hdigits⟩ := List.forall_mem_cons.mp h
      rw [List.map_cons, Nat.ofDigitChars_cons_digitChar_of_lt_ten hd,
        Nat.ofDigitChars_eq_ofDigitChars_zero, ih hdigits, Nat.ofDigits_reverse_cons,
        List.length_map, Nat.mul_zero, Nat.zero_add, Nat.add_comm]

/-- Digits are read as the number with these digits to base ten. -/
theorem readDecimal?_eq_some_iff {l : List Char} {n : Nat} :
    readDecimal? l = some n ↔ ∃ digits : List Nat, digits ≠ [] ∧ (∀ d ∈ digits, d < 10) ∧
      l = digits.map Nat.digitChar ∧ n = Nat.ofDigits 10 digits.reverse := by
  rw [readDecimal?, Option.ite_none_right_eq_some, all_isDigit_iff, Option.some.injEq]
  constructor
  · rintro ⟨⟨hne, digits, hdigits, rfl⟩, rfl⟩
    exact ⟨digits, by simpa using hne, hdigits, rfl, foldl_digits hdigits⟩
  · rintro ⟨digits, hne, hdigits, rfl, rfl⟩
    exact ⟨⟨by simpa using hne, digits, hdigits, rfl⟩, foldl_digits hdigits⟩

/-- What may stand before the digits of a numeral. -/
inductive Sign where
  | none
  | plus
  | minus

namespace Sign

def mark : Sign → List Char
  | none => []
  | plus => ['+']
  | minus => ['-']

def apply : Sign → Nat → Int
  | minus, n => -(n : Int)
  | _, n => n

end Sign

/-- A text consists of one sign or none and of one or more ASCII digits, each of which counts ten
times as much as the one after it, and so it stands for an integer. -/
def IsNumeral (text : String) (i : Int) : Prop :=
  ∃ (sign : Sign) (digits : List Nat), digits ≠ [] ∧ (∀ d ∈ digits, d < 10) ∧
    text.toList = sign.mark ++ digits.map Nat.digitChar ∧
    i = sign.apply (Nat.ofDigits 10 digits.reverse)

/-- A sign is read before the digits that follow it. -/
theorem readSigned?_cases (l : List Char) : ∃ (sign : Sign) (rest : List Char),
    l = sign.mark ++ rest ∧ readSigned? l = (readDecimal? rest).map sign.apply := by
  fun_cases readSigned? l with
  | case1 rest => exact ⟨.minus, rest, rfl, by cases readDecimal? rest <;> rfl⟩
  | case2 rest => exact ⟨.plus, rest, rfl, by cases readDecimal? rest <;> rfl⟩
  | case3 => exact ⟨.none, l, rfl, by cases readDecimal? l <;> rfl⟩

theorem readSigned?_mark (sign : Sign) {l : List Char} (hl : ∀ c ∈ l.head?, c.isDigit = true) :
    readSigned? (sign.mark ++ l) = (readDecimal? l).map sign.apply := by
  cases sign with
  | none =>
      -- a digit is no sign, so nothing is taken off
      have hminus : ∀ r, l = '-' :: r → False := by
        rintro r rfl
        cases hl '-' rfl
      have hplus : ∀ r, l = '+' :: r → False := by
        rintro r rfl
        cases hl '+' rfl
      rw [Sign.mark, List.nil_append, readSigned?.eq_3 l hminus hplus]
      cases readDecimal? l <;> rfl
  | plus => cases hread : readDecimal? l <;> simp [Sign.mark, readSigned?, hread, Sign.apply]
  | minus => cases hread : readDecimal? l <;> simp [Sign.mark, readSigned?, hread, Sign.apply]

/-- A text is read as an integer exactly if it is a numeral for it. -/
theorem readSigned?_eq_some_iff {text : String} {i : Int} :
    readSigned? text.toList = some i ↔ IsNumeral text i := by
  constructor
  · intro h
    obtain ⟨sign, l, htext, hread⟩ := readSigned?_cases text.toList
    rw [hread] at h
    obtain ⟨n, hn, rfl⟩ := Option.map_eq_some_iff.mp h
    obtain ⟨digits, hne, hdigits, rfl, rfl⟩ := readDecimal?_eq_some_iff.mp hn
    exact ⟨sign, digits, hne, hdigits, htext, rfl⟩
  · rintro ⟨sign, digits, hne, hdigits, htext, rfl⟩
    have hhead : ∀ c ∈ (digits.map Nat.digitChar).head?, c.isDigit = true := by
      intro c hc
      have hall := all_isDigit_iff.mpr ⟨digits, hdigits, rfl⟩
      exact List.all_eq_true.mp hall c (List.mem_of_mem_head? hc)
    rw [htext, readSigned?_mark sign hhead,
      readDecimal?_eq_some_iff.mpr ⟨digits, hne, hdigits, rfl, rfl⟩, Option.map_some]

/-- A numeral stands for one integer. -/
theorem IsNumeral.unique {text : String} {i j : Int} (hi : IsNumeral text i)
    (hj : IsNumeral text j) : i = j := by
  rw [← readSigned?_eq_some_iff] at hi hj
  exact Option.some.inj (hi.symm.trans hj)

/-- What is written for an integer is a numeral of it. -/
theorem isNumeral_decimalInt (i : Int) : IsNumeral (decimalInt i) i := by
  obtain ⟨digits, hdigits, hmap⟩ := all_isDigit_iff.mp
    (List.all_eq_true.mpr fun c hc =>
      Nat.isDigit_of_mem_toDigits (b := 10) (n := i.natAbs) (by decide) (by decide) hc)
  have hne : digits ≠ [] := by
    rintro rfl
    exact Nat.toDigits_ne_nil hmap
  have hvalue : Nat.ofDigits 10 digits.reverse = i.natAbs := by
    rw [← foldl_digits hdigits, ← hmap]
    exact Nat.ofDigitChars_ten_toDigits
  by_cases hneg : i < 0
  · refine ⟨.minus, digits, hne, hdigits, ?_, ?_⟩
    · simp [decimalInt, hneg, decimal, decimalDigits_eq, hmap, Sign.mark]
    · have habs : (i.natAbs : Int) = -i := Int.ofNat_natAbs_of_nonpos (Int.le_of_lt hneg)
      rw [hvalue, Sign.apply, habs, Int.neg_neg]
  · refine ⟨.none, digits, hne, hdigits, ?_, ?_⟩
    · simp [decimalInt, hneg, decimal, decimalDigits_eq, hmap, Sign.mark]
    · rw [hvalue]
      exact (Int.natAbs_of_nonneg (Int.not_lt.mp hneg)).symm

end ShellPipeline
