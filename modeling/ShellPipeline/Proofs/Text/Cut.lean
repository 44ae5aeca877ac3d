import Mathlib.Data.List.Induction
import Mathlib.Data.List.TakeDrop
import Mathlib.Data.List.TakeWhile
import ShellPipeline.Session.Conversation

/-!
# Streams that are cut into lines

What a line is, beside the functions that look for one. A stream has exactly one cut, it has as
many lines with carriage returns before its line feeds as without, and the texts of these lines are
the same, whether or not the bytes are UTF-8.
-/

namespace ShellPipeline

variable {line rest stream bytes : Bytes} {pieces lines : List Bytes} {b : UInt8}

/-- A line with what comes after it: its last byte is its only line feed, or else nothing comes
after it. -/
def IsLine (line rest : Bytes) : Prop :=
  ∃ body b, line = body ++ [b] ∧ lineFeed ∉ body ∧ (b = lineFeed ∨ rest = [])

inductive Cut : Bytes → List Bytes → Prop
  | nil : Cut [] []
  | cons {line rest : Bytes} {lines : List Bytes} :
      IsLine line rest → Cut rest lines → Cut (line ++ rest) (line :: lines)

theorem IsLine.ne_nil (h : IsLine line rest) : line ≠ [] := by
  obtain ⟨body, b, rfl, -, -⟩ := h
  simp

theorem Cut.flatten_eq (h : Cut stream pieces) : pieces.flatten = stream := by
  induction h with
  | nil => rfl
  | cons _ _ ih => rw [List.flatten_cons, ih]

theorem Cut.length_le (h : Cut stream pieces) : pieces.length ≤ stream.length := by
  induction h with
  | nil => exact Nat.le_refl 0
  | cons hline _ ih =>
      have hpos := List.length_pos_iff.mpr hline.ne_nil
      rw [List.length_cons, List.length_append]
      omega

/-! ## Looking for a line -/

theorem splitLine?_eq_none (h : splitLine? bytes = none) : lineFeed ∉ bytes := by
  rw [splitLine?, List.span_eq_takeWhile_dropWhile] at h
  split at h
  · next heq =>
    have hall := List.dropWhile_eq_nil_iff.mp (congrArg Prod.snd heq)
    intro hmem
    simpa using hall lineFeed hmem
  · cases h

theorem splitLine?_eq_some (h : splitLine? bytes = some (line, rest)) :
    bytes = line ++ rest ∧ ∃ body, line = body ++ [lineFeed] ∧ lineFeed ∉ body := by
  rw [splitLine?, List.span_eq_takeWhile_dropWhile] at h
  split at h
  · cases h
  · next body b after heq =>
    obtain ⟨hbody, hafter⟩ := Prod.mk.inj heq
    obtain ⟨hline, rfl⟩ := Prod.mk.inj (Option.some.inj h)
    have hfeed : b = lineFeed := by
      have hhead := List.head?_dropWhile_not (· ≠ lineFeed) bytes
      rw [hafter] at hhead
      simpa using hhead
    have hnone : lineFeed ∉ body := by
      intro hmem
      rw [← hbody] at hmem
      simpa using List.mem_takeWhile_imp hmem
    refine ⟨?_, body, ?_, hnone⟩
    · rw [← hline, List.append_assoc, List.singleton_append, ← hbody, ← hafter,
        List.takeWhile_append_dropWhile]
    · rw [← hline, hfeed]

theorem exists_isLine (h : bytes ≠ []) : ∃ line rest, bytes = line ++ rest ∧ IsLine line rest := by
  rcases hsplit : splitLine? bytes with _ | ⟨line, rest⟩
  · have hnone := splitLine?_eq_none hsplit
    refine ⟨bytes, [], (List.append_nil _).symm, bytes.dropLast, bytes.getLast h, ?_, ?_,
      Or.inr rfl⟩
    · exact (List.dropLast_concat_getLast h).symm
    · exact fun hmem => hnone (List.dropLast_subset _ hmem)
  · obtain ⟨hbytes, body, hline, hbody⟩ := splitLine?_eq_some hsplit
    exact ⟨line, rest, hbytes, body, lineFeed, hline, hbody, Or.inl rfl⟩

/-! ## Cutting a stream -/

/-- The next byte begins a line of its own. -/
def Closed (lines : List Bytes) : Prop :=
  ∀ b l more, lines = (b :: l) :: more → b = lineFeed

theorem pushByte_append (hclosed : Closed pieces) (lines : List Bytes) (b : UInt8) :
    pushByte (lines ++ pieces) b = pushByte lines b ++ pieces := by
  rcases lines with _ | ⟨_ | ⟨x, l⟩, more⟩
  · rcases pieces with _ | ⟨_ | ⟨x, l⟩, more⟩
    · rfl
    · rfl
    · simp [pushByte, hclosed x l more rfl]
  · rfl
  · simp only [pushByte, List.cons_append]
    split <;> rfl

theorem foldl_pushByte_append (hclosed : Closed pieces) (lines : List Bytes) (bytes : Bytes) :
    bytes.foldl pushByte (lines ++ pieces) = bytes.foldl pushByte lines ++ pieces := by
  induction bytes generalizing lines with
  | nil => rfl
  | cons b bytes ih => rw [List.foldl_cons, pushByte_append hclosed, ih, List.foldl_cons]

theorem foldl_pushByte_line (hbody : lineFeed ∉ bytes) (b : UInt8) :
    (bytes ++ [b]).foldl pushByte [] = [b :: bytes.reverse] := by
  induction bytes using List.reverseRecOn generalizing b with
  | nil => rfl
  | append_singleton body c ih =>
      rw [List.mem_append, List.mem_singleton, not_or] at hbody
      rw [List.foldl_append, ih hbody.1, List.reverse_append]
      simp [pushByte, Ne.symm hbody.2]

theorem linesOf_append (h : IsLine line rest) : linesOf (line ++ rest) = line :: linesOf rest := by
  obtain ⟨body, b, rfl, hbody, hend⟩ := h
  have hline := foldl_pushByte_line hbody b
  have hrest : rest.foldl pushByte [b :: body.reverse]
      = rest.foldl pushByte [] ++ [b :: body.reverse] := by
    rcases hend with rfl | rfl
    · refine foldl_pushByte_append ?_ [] rest
      rintro _ _ _ ⟨⟩
      rfl
    · rfl
  rw [linesOf, List.foldl_append, hline, hrest]
  simp [linesOf]

/-- The lines of a stream are cut where they should be. -/
theorem cut_linesOf (stream : Bytes) : Cut stream (linesOf stream) := by
  induction hn : stream.length using Nat.strongRecOn generalizing stream with
  | ind n ih =>
    by_cases hnil : stream = []
    · rw [hnil]
      exact .nil
    · obtain ⟨line, rest, rfl, hline⟩ := exists_isLine hnil
      have hpos := List.length_pos_iff.mpr hline.ne_nil
      rw [List.length_append] at hn
      rw [linesOf_append hline]
      exact .cons hline (ih rest.length (by omega) rest rfl)

theorem continuation?_ge {lo hi : UInt8} {need : Nat} (h : continuation? b = some (lo, hi, need)) :
    0x80 ≤ lo := by
  unfold continuation? at h
  repeat' split at h
  all_goals
    cases h
  all_goals decide

theorem readContinuation_append {lo hi : UInt8} (hlo : 0x80 ≤ lo) (hb : b < 0x80)
    (bits taken need : Nat) (bytes : Bytes) :
    readContinuation lo hi bits taken need (bytes ++ [b])
      = readContinuation lo hi bits taken need bytes := by
  induction bytes generalizing lo hi bits taken need with
  | nil =>
      rcases need with _ | need
      · rfl
      · have hout : byteBetween lo hi b = false := by
          have hlt : ¬ lo ≤ b := fun hle => UInt8.not_lt.mpr (UInt8.le_trans hlo hle) hb
          simp [byteBetween, hlt]
        simp [readContinuation, hout]
  | cons c bytes ih =>
      rcases need with _ | need
      · rfl
      · simp only [List.cons_append, readContinuation]
        rw [ih (by decide)]

theorem readContinuation_le (lo hi : UInt8) (bits taken need : Nat) (bytes : Bytes) :
    (readContinuation lo hi bits taken need bytes).2 ≤ taken + bytes.length := by
  induction bytes generalizing lo hi bits taken need with
  | nil => rcases need with _ | need <;> exact Nat.le_refl _
  | cons c bytes ih =>
      rcases need with _ | need
      · exact Nat.le_add_right _ _
      · rw [readContinuation, List.length_cons]
        split
        · have := ih 0x80 0xBF (joinBits bits c) (taken + 1) need
          omega
        · exact Nat.le_add_right _ _

theorem firstChar_append (hb : b < 0x80) (first : UInt8) (bytes : Bytes) :
    firstChar first (bytes ++ [b]) = firstChar first bytes := by
  unfold firstChar
  split
  · rfl
  · split
    · rfl
    · next lo hi need heq => exact readContinuation_append (continuation?_ge heq) hb ..

theorem firstChar_le (first : UInt8) (bytes : Bytes) :
    (firstChar first bytes).2 ≤ bytes.length := by
  unfold firstChar
  split
  · exact Nat.zero_le _
  · split
    · exact Nat.zero_le _
    · next lo hi need _ =>
      have hle := readContinuation_le lo hi (leadingBits first need) 0 need bytes
      rwa [Nat.zero_add] at hle

theorem decodeText_go_append (hb : b < 0x80) (done : String) (bytes : Bytes) :
    decodeText.go done (bytes ++ [b]) = (decodeText.go done bytes).push (Char.ofNat b.toNat) := by
  -- a byte this small continues no character, so the characters before it are cut as without it
  fun_induction decodeText.go done bytes with
  | case1 done =>
      rw [List.nil_append, decodeText.go, firstChar, if_pos hb]
      simp [decodeText.go]
  | case2 done first bytes c taken hfirst ih =>
      have htaken : taken ≤ bytes.length := by
        have hle := firstChar_le first bytes
        rwa [hfirst] at hle
      rw [List.cons_append, decodeText.go, firstChar_append hb, hfirst]
      simp only
      rw [List.drop_append_of_le_length htaken, ih]

/-- A byte of ASCII at the end stands for itself, even after bytes that are no text. -/
theorem decodeText_append (hb : b < 0x80) (bytes : Bytes) :
    decodeText (bytes ++ [b]) = (decodeText bytes).push (Char.ofNat b.toNat) :=
  decodeText_go_append hb "" bytes

theorem decodeText_ascii (h : ∀ b ∈ bytes, b < 0x80) :
    decodeText bytes = String.ofList (bytes.map fun b => Char.ofNat b.toNat) := by
  induction bytes using List.reverseRecOn with
  | nil => simp [decodeText, decodeText.go]
  | append_singleton bytes b ih =>
      rw [List.forall_mem_append, List.forall_mem_singleton] at h
      rw [decodeText_append h.2, ih h.1, List.map_append, String.ofList_append]
      rfl

/-! ## Carriage returns -/

def lineText (line : Bytes) : String :=
  trimLine (decodeText line)

def lineTexts (stream : Bytes) : List String :=
  (linesOf stream).map lineText

theorem lineTexts_ascii (h : (stream.all fun b => b < 0x80) = true) :
    lineTexts stream = (linesOf stream).map fun line =>
      trimLine (String.ofList (line.map fun b => Char.ofNat b.toNat)) := by
  refine List.map_congr_left fun line hline => ?_
  rw [lineText, decodeText_ascii]
  intro b hb
  apply of_decide_eq_true (List.all_eq_true.mp h b _)
  rw [← (cut_linesOf stream).flatten_eq]
  exact List.mem_flatten_of_mem hline hb

/-- The bits of further bytes never make a character smaller. -/
theorem readContinuation_cases (lo hi : UInt8) (bits taken need : Nat) (bytes : Bytes) :
    (readContinuation lo hi bits taken need bytes).1 = replacementChar ∨
      ∃ n, bits ≤ n ∧ (readContinuation lo hi bits taken need bytes).1 = Char.ofNat n := by
  induction need generalizing lo hi bits taken bytes with
  | zero => exact Or.inr ⟨bits, Nat.le_refl _, rfl⟩
  | succ need ih =>
      rcases bytes with _ | ⟨c, bytes⟩
      · exact Or.inl rfl
      · rw [readContinuation]
        split
        · have hjoin : bits ≤ joinBits bits c := by
            rw [joinBits]
            omega
          exact (ih _ _ _ _ _).imp_right fun ⟨n, hn, heq⟩ => ⟨n, Nat.le_trans hjoin hn, heq⟩
        · exact Or.inl rfl

/-- Together with the byte after it, a leading byte stands for more than a line feed. -/
theorem le_joinBits_leadingBits {lo hi c : UInt8} {need : Nat}
    (h : continuation? b = some (lo, hi, need)) (hc : byteBetween lo hi c = true) :
    16 ≤ joinBits (leadingBits b need) c := by
  unfold continuation? at h
  repeat' split at h
  all_goals
    cases h
  all_goals
    simp only [byteBetween, Bool.and_eq_true, decide_eq_true_eq, UInt8.le_iff_toNat_le,
      ← UInt8.toNat_inj] at *
    simp only [joinBits, leadingBits, Nat.shiftLeft_eq, UInt8.toNat_ofNat] at *
    omega

theorem need_ne_zero {lo hi : UInt8} {need : Nat} (h : continuation? b = some (lo, hi, need)) :
    need ≠ 0 := by
  unfold continuation? at h
  repeat' split at h
  all_goals
    cases h
  all_goals decide

theorem ofNat_ne_newline {n : Nat} (h : n ≠ 10) : Char.ofNat n ≠ '\n' := by
  intro heq
  by_cases hvalid : n.isValidChar
  · have htoNat := congrArg Char.toNat heq
    rw [Char.ofNat, dif_pos hvalid] at htoNat
    exact h htoNat
  · rw [Char.ofNat, dif_neg hvalid] at heq
    cases heq

/-- Only a line feed is read as one. -/
theorem firstChar_ne_newline (hb : b ≠ lineFeed) (bytes : Bytes) :
    (firstChar b bytes).1 ≠ '\n' := by
  unfold firstChar
  split
  · exact ofNat_ne_newline fun h => hb (UInt8.toNat_inj.mp h)
  · split
    · decide
    · next lo hi need hneed =>
      rcases need with _ | need
      · exact absurd rfl (need_ne_zero hneed)
      · rcases bytes with _ | ⟨c, bytes⟩
        · exact (by decide : replacementChar ≠ '\n')
        · rw [readContinuation]
          split
          · next hc =>
            have hlarge := le_joinBits_leadingBits hneed hc
            rcases readContinuation_cases 0x80 0xBF (joinBits (leadingBits b (need + 1)) c) (0 + 1)
              need bytes with heq | ⟨n, hn, heq⟩
            · rw [heq]
              decide
            · rw [heq]
              exact ofNat_ne_newline (by omega)
          · decide

theorem newline_not_mem_decodeText_go {done : String} (hdone : '\n' ∉ done.toList)
    (hbytes : lineFeed ∉ bytes) : '\n' ∉ (decodeText.go done bytes).toList := by
  fun_induction decodeText.go done bytes with
  | case1 done => exact hdone
  | case2 done first bytes c taken hfirst ih =>
      rw [List.mem_cons, not_or] at hbytes
      apply ih
      · have hc : c ≠ '\n' := by
          have hne := firstChar_ne_newline (Ne.symm hbytes.1) bytes
          rwa [hfirst] at hne
        simp [hdone, Ne.symm hc]
      · exact fun hmem => hbytes.2 (List.mem_of_mem_drop hmem)

theorem newline_not_mem_trimLine {s : String} (h : '\n' ∉ s.toList) :
    '\n' ∉ (trimLine s).toList := by
  intro hmem
  simp only [trimLine, String.toList_ofList, List.mem_reverse] at hmem
  exact h (List.mem_reverse.mp ((List.dropWhile_suffix _).subset hmem))

theorem IsLine.newline_not_mem_lineText (h : IsLine line rest) : '\n' ∉ (lineText line).toList := by
  obtain ⟨body, b, rfl, hbody, -⟩ := h
  by_cases hb : b = lineFeed
  · have hsmall : lineFeed < 0x80 := by decide
    have htrim : lineText (body ++ [lineFeed]) = trimLine (decodeText body) := by
      rw [lineText, decodeText_append hsmall]
      simp [trimLine, lineFeed]
    rw [hb, htrim]
    exact newline_not_mem_trimLine (newline_not_mem_decodeText_go (by decide) hbody)
  · have hall : lineFeed ∉ body ++ [b] := by simp [hbody, Ne.symm hb]
    exact newline_not_mem_trimLine (newline_not_mem_decodeText_go (by decide) hall)

theorem Cut.newline_not_mem (h : Cut stream pieces) :
    ∀ line ∈ pieces, '\n' ∉ (lineText line).toList := by
  induction h with
  | nil => simp
  | cons hline _ ih => exact List.forall_mem_cons.mpr ⟨hline.newline_not_mem_lineText, ih⟩

/-- No line of a stream says anything with a line feed. -/
theorem newline_not_mem_of_mem_lineTexts {text : String} (h : text ∈ lineTexts stream) :
    '\n' ∉ text.toList := by
  obtain ⟨line, hline, rfl⟩ := List.mem_map.mp h
  exact (cut_linesOf stream).newline_not_mem line hline

end ShellPipeline
