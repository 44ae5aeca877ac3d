import Mathlib.Data.List.Basic
import ShellPipeline.Number.Digits
import ShellPipeline.Text.Json

/-!
# The grammar of JSON texts

There may be white space between the signs of a JSON text, and a character of a string may be
spelled in more than one way. Whatever a writer chooses, the text is one of a single value. The
written form of a value follows one of these styles, so the value can be told from it.

A derivation is about a text and the rest of it that it leaves, and each of its rules takes a sign
or some white space off the front. So two derivations over one text can be compared rule by rule.
-/

namespace ShellPipeline

namespace Json

/-! ## Styles -/

def isGap (c : Char) : Bool :=
  c = ' ' || c = '\t' || c = '\n' || c = '\r'

/-- The places of a text at which there may be white space. -/
inductive Place where
  | opening
  | closing
  | betweenBrackets
  | beforeComma
  | afterComma
  | beforeColon
  | afterColon

/-- What a writer of JSON may choose. -/
structure Style where
  /-- The white space at a place of some depth. -/
  gap : Place → Nat → List Char → Prop
  /-- The spellings of a character in a string. -/
  spelling : Char → List Char → Prop

/-- What one style allows is allowed by the other one. -/
structure Style.Within (S S' : Style) : Prop where
  gap : ∀ {place depth blank}, S.gap place depth blank → S'.gap place depth blank
  spelling : ∀ {c spelled}, S.spelling c spelled → S'.spelling c spelled

/-- A character that may stand in a string as it is. -/
def IsPlain (c : Char) : Prop :=
  0x20 ≤ c.toNat ∧ c ≠ '"' ∧ c ≠ '\\'

instance : DecidablePred IsPlain :=
  fun c => inferInstanceAs (Decidable (0x20 ≤ c.toNat ∧ c ≠ '"' ∧ c ≠ '\\'))

/-- The characters that have a short escape, with the letter of it. -/
def shortEscapes : List (Char × Char) :=
  [('"', '"'), ('\\', '\\'), ('/', '/'), ('\x08', 'b'), ('\x0c', 'f'), ('\n', 'n'), ('\r', 'r'),
    ('\t', 't')]

/-- Four hexadecimal digits that stand for a number. -/
structure IsUnit (digits : List Char) (n : Nat) : Prop where
  length : digits.length = 4
  hex : digits.all isHexDigit = true
  value : numberOf 16 digits = n

/-- The spellings that JSON allows: the character itself, a short escape, its number, or the two
surrogates of its number. -/
inductive Spelling : Char → List Char → Prop
  | plain {c : Char} (plain : IsPlain c) : Spelling c [c]
  | short {c letter : Char} (short : (c, letter) ∈ shortEscapes) : Spelling c ['\\', letter]
  | unit {c : Char} {digits : List Char} (unit : IsUnit digits c.toNat) :
      Spelling c ('\\' :: 'u' :: digits)
  | pair {c : Char} {high low : List Char} {h l : Nat} (unitHigh : IsUnit high (0xD800 + h))
      (unitLow : IsUnit low (0xDC00 + l)) (boundHigh : h < 0x400) (boundLow : l < 0x400)
      (value : c.toNat = 0x10000 + h * 0x400 + l) :
      Spelling c ('\\' :: 'u' :: high ++ '\\' :: 'u' :: low)

def Style.free : Style where
  gap _ _ blank := blank.all isGap = true
  spelling := Spelling

/-- One item on a line, with two spaces of indentation for each level, a space after a colon, and
in strings a short escape where a character cannot stand as it is, or else its number in small
hexadecimal digits. -/
def Style.indented : Style where
  gap place depth blank :=
    match place with
    | .opening | .closing | .afterComma => blank = '\n' :: List.replicate (2 * depth) ' '
    | .betweenBrackets | .beforeComma | .beforeColon => blank = []
    | .afterColon => blank = [' ']
  spelling c spelled :=
    IsPlain c ∧ spelled = [c] ∨
      ¬ IsPlain c ∧ (∃ letter, (c, letter) ∈ shortEscapes ∧ spelled = ['\\', letter]) ∨
      ¬ IsPlain c ∧ (∀ letter, (c, letter) ∉ shortEscapes) ∧
        spelled = '\\' :: 'u' :: (Nat.toDigits 16 c.toNat).leftpad 4 '0'

/-! ## Derivations -/

/-- The text goes on with the characters of a string and the quotation mark after them. -/
inductive Spells (S : Style) : List Char → List Char → List Char → Prop
  | close {rest : List Char} : Spells S [] ('"' :: rest) rest
  | char {c : Char} {cs spelled text rest : List Char} (spelling : S.spelling c spelled)
      (more : Spells S cs text rest) : Spells S (c :: cs) (spelled ++ text) rest

inductive Bracket where
  | square
  | curly

def Bracket.closing : Bracket → Char
  | square => ']'
  | curly => '\x7d'

abbrev Bracket.Item : Bracket → Type
  | square => Json
  | curly => String × Json

/-- The parts of a text. -/
inductive Phrase where
  | value
  | item (b : Bracket)
  /-- Items with the closing bracket after them. -/
  | items (b : Bracket)
  /-- Items that follow others, with the closing bracket after them. -/
  | others (b : Bracket)

abbrev Phrase.Content : Phrase → Type
  | value => Json
  | item b => b.Item
  | items b => List b.Item
  | others b => List b.Item

/-- At some depth the text goes on with a phrase of some content. -/
inductive Reads (S : Style) : Nat → (p : Phrase) → p.Content → List Char → List Char → Prop
  | null {depth : Nat} {rest : List Char} :
      Reads S depth .value .null ('n' :: 'u' :: 'l' :: 'l' :: rest) rest
  | text {depth : Nat} {s : String} {text rest : List Char} (spells : Spells S s.toList text rest) :
      Reads S depth .value (.text s) ('"' :: text) rest
  | list {depth : Nat} {js : List Json} {text rest : List Char}
      (items : Reads S depth (.items .square) js text rest) :
      Reads S depth .value (.list js) ('[' :: text) rest
  | object {depth : Nat} {ms : List (String × Json)} {text rest : List Char}
      (items : Reads S depth (.items .curly) ms text rest) :
      Reads S depth .value (.object ms) ('\x7b' :: text) rest
  | element {depth : Nat} {j : Json} {text rest : List Char}
      (value : Reads S depth .value j text rest) : Reads S depth (.item .square) j text rest
  | member {depth : Nat} {name : String} {j : Json} {blank blank' named text rest : List Char}
      (spells : Spells S name.toList named (blank ++ ':' :: (blank' ++ text)))
      (before : S.gap .beforeColon depth blank) (after : S.gap .afterColon depth blank')
      (value : Reads S depth .value j text rest) :
      Reads S depth (.item .curly) (name, j) ('"' :: named) rest
  | none {depth : Nat} {b : Bracket} {blank rest : List Char}
      (gap : S.gap .betweenBrackets depth blank) :
      Reads S depth (.items b) [] (blank ++ b.closing :: rest) rest
  | first {depth : Nat} {b : Bracket} {i : b.Item} {is : List b.Item}
      {blank text next rest : List Char} (gap : S.gap .opening (depth + 1) blank)
      (item : Reads S (depth + 1) (.item b) i text next)
      (others : Reads S depth (.others b) is next rest) :
      Reads S depth (.items b) (i :: is) (blank ++ text) rest
  | last {depth : Nat} {b : Bracket} {blank rest : List Char} (gap : S.gap .closing depth blank) :
      Reads S depth (.others b) [] (blank ++ b.closing :: rest) rest
  | next {depth : Nat} {b : Bracket} {i : b.Item} {is : List b.Item}
      {blank blank' text next rest : List Char} (before : S.gap .beforeComma (depth + 1) blank)
      (after : S.gap .afterComma (depth + 1) blank')
      (item : Reads S (depth + 1) (.item b) i text next)
      (others : Reads S depth (.others b) is next rest) :
      Reads S depth (.others b) (i :: is) (blank ++ ',' :: (blank' ++ text)) rest

/-- The text is one of a value, with white space around it or without. -/
def IsText (text : String) (j : Json) : Prop :=
  ∃ before body after, before.all isGap = true ∧ after.all isGap = true ∧
    text.toList = before ++ body ∧ Reads .free 0 .value j body after

variable {S S' : Style} {depth : Nat} {p : Phrase} {x x' : p.Content} {c c' : Char}
  {cs cs' text text' rest rest' : List Char}

theorem Spells.mono (hle : S.Within S') (h : Spells S cs text rest) : Spells S' cs text rest := by
  induction h with
  | close => exact .close
  | char spelling _ ih => exact .char (hle.spelling spelling) ih

/-- What a strict style allows is a text of a free one. -/
theorem Reads.mono (hle : S.Within S') (h : Reads S depth p x text rest) :
    Reads S' depth p x text rest := by
  induction h with
  | null => exact .null
  | text spells => exact .text (spells.mono hle)
  | list _ ih => exact .list ih
  | object _ ih => exact .object ih
  | element _ ih => exact .element ih
  | member spells before after _ ih =>
      exact .member (spells.mono hle) (hle.gap before) (hle.gap after) ih
  | none gap => exact .none (hle.gap gap)
  | first gap _ _ ihItem ihOthers => exact .first (hle.gap gap) ihItem ihOthers
  | last gap => exact .last (hle.gap gap)
  | next before after _ _ ihItem ihOthers =>
      exact .next (hle.gap before) (hle.gap after) ihItem ihOthers

/-! ## Texts of one value -/

theorem IsUnit.unique {digits digits' : List Char} {n n' : Nat} (h : IsUnit digits n)
    (h' : IsUnit digits' n') (heq : digits ++ text = digits' ++ text') :
    n = n' ∧ text = text' := by
  obtain ⟨rfl, htext⟩ := List.append_inj heq (h.length.trans h'.length.symm)
  exact ⟨h.value.symm.trans h'.value, htext⟩

theorem toNat_ne_surrogate (c : Char) {h : Nat} (hbound : h < 0x400) : c.toNat ≠ 0xD800 + h := by
  have hvalid : c.toNat < 0xD800 ∨ 0xDFFF < c.toNat ∧ c.toNat < 0x110000 := c.valid
  omega

theorem ne_u_of_mem_shortEscapes {letter : Char} (h : (c, letter) ∈ shortEscapes) :
    letter ≠ 'u' := by
  have hall : ∀ e ∈ shortEscapes, e.2 ≠ 'u' := by decide
  exact hall _ h

theorem eq_of_mem_shortEscapes {letter : Char} (h : (c, letter) ∈ shortEscapes)
    (h' : (c', letter) ∈ shortEscapes) : c = c' := by
  have hall : ∀ e ∈ shortEscapes, ∀ e' ∈ shortEscapes, e.2 = e'.2 → e.1 = e'.1 := by decide
  exact hall _ h _ h' rfl

/-- No spelling begins another one. -/
theorem Spelling.unique {u u' : List Char} (h : Spelling c u) (h' : Spelling c' u')
    (heq : u ++ text = u' ++ text') : c = c' ∧ text = text' := by
  cases h with
  | plain plain =>
      cases h' with
      | plain => simpa using heq
      | _ => simp [plain.2.2] at heq
  | short short =>
      have hletter := ne_u_of_mem_shortEscapes short
      cases h' with
      | plain plain' => simp [plain'.2.2.symm] at heq
      | short short' =>
          obtain ⟨rfl, htext⟩ : _ ∧ _ := by simpa using heq
          exact ⟨eq_of_mem_shortEscapes short short', htext⟩
      | _ => simp [hletter] at heq
  | unit unit =>
      cases h' with
      | plain plain' => simp [plain'.2.2.symm] at heq
      | short short' => simp [(ne_u_of_mem_shortEscapes short').symm] at heq
      | unit unit' =>
          obtain ⟨hvalue, htext⟩ := unit.unique unit' (by simpa using heq)
          exact ⟨Char.toNat_inj.mp hvalue, htext⟩
      | pair unitHigh _ boundHigh _ _ =>
          -- the number of a character is never that of a surrogate
          obtain ⟨hvalue, -⟩ := unit.unique unitHigh (by simpa using heq)
          exact absurd hvalue (toNat_ne_surrogate c boundHigh)
  | pair unitHigh unitLow boundHigh _ value =>
      cases h' with
      | plain plain' => simp [plain'.2.2.symm] at heq
      | short short' => simp [(ne_u_of_mem_shortEscapes short').symm] at heq
      | unit unit' =>
          obtain ⟨hvalue, -⟩ := unitHigh.unique unit' (by simpa using heq)
          exact absurd hvalue.symm (toNat_ne_surrogate c' boundHigh)
      | pair unitHigh' unitLow' _ _ value' =>
          obtain ⟨hhigh, hlow⟩ := unitHigh.unique unitHigh' (by simpa using heq)
          obtain ⟨hlow, htext⟩ := unitLow.unique unitLow' (by simpa using hlow)
          refine ⟨Char.toNat_inj.mp ?_, htext⟩
          omega

theorem Spelling.ne_quote {u : List Char} (h : Spelling c u) : u ++ text ≠ '"' :: text' := by
  cases h with
  | plain plain => simp [plain.2.1]
  | _ => simp

/-- A string has one reading, and ends at one place. -/
theorem Spells.unique (h : Spells .free cs text rest) (h' : Spells .free cs' text' rest')
    (heq : text = text') : cs = cs' ∧ rest = rest' := by
  induction h generalizing cs' text' with
  | close =>
      cases h' with
      | close => simpa using heq
      | char spelling' => exact absurd heq.symm (Spelling.ne_quote spelling')
  | char spelling _ ih =>
      cases h' with
      | close => exact absurd heq (Spelling.ne_quote spelling)
      | char spelling' more' =>
          obtain ⟨rfl, htext⟩ := Spelling.unique spelling spelling' heq
          obtain ⟨rfl, hrest⟩ := ih more' htext
          exact ⟨rfl, hrest⟩

/-- A text that does not begin with white space. -/
def Begun (text : List Char) : Prop :=
  ∃ c more, text = c :: more ∧ isGap c = false

theorem Begun.dropWhile_eq {blank : List Char} (h : Begun text) (hblank : blank.all isGap = true) :
    (blank ++ text).dropWhile isGap = text := by
  obtain ⟨c, more, rfl, hc⟩ := h
  rw [List.dropWhile_append_of_pos (List.all_eq_true.mp hblank),
    List.dropWhile_cons_of_neg (by simp [hc])]

/-- White space ends where what comes after it begins. -/
theorem Begun.unique {blank blank' : List Char} (h : Begun text) (h' : Begun text')
    (hblank : blank.all isGap = true) (hblank' : blank'.all isGap = true)
    (heq : blank ++ text = blank' ++ text') : text = text' := by
  rw [← h.dropWhile_eq hblank, heq, h'.dropWhile_eq hblank']

theorem begun_cons (h : isGap c = false) : Begun (c :: text) :=
  ⟨c, text, rfl, h⟩

theorem sign_unique {blank blank' : List Char} (hc : isGap c = false) (hc' : isGap c' = false)
    (hblank : blank.all isGap = true) (hblank' : blank'.all isGap = true)
    (heq : blank ++ c :: text = blank' ++ c' :: text') : c = c' ∧ text = text' :=
  List.cons.inj ((begun_cons hc).unique (begun_cons hc') hblank hblank' heq)

theorem isGap_closing (b : Bracket) : isGap b.closing = false := by
  cases b <;> decide

theorem closing_ne_comma (b : Bracket) : b.closing ≠ ',' := by
  cases b <;> decide

def openers : List Char :=
  ['n', '"', '[', '\x7b']

theorem Reads.head_value {j : Json} (h : Reads S depth .value j text rest) :
    ∃ c ∈ openers, ∃ more, text = c :: more := by
  cases h <;> exact ⟨_, by decide, _, rfl⟩

theorem Reads.head_item {b : Bracket} {i : b.Item} (h : Reads S depth (.item b) i text rest) :
    ∃ c ∈ openers, ∃ more, text = c :: more := by
  cases h with
  | element value => exact value.head_value
  | member => exact ⟨_, by decide, _, rfl⟩

theorem begun_of_head (h : ∃ c ∈ openers, ∃ more, text = c :: more) : Begun text := by
  obtain ⟨c, hc, more, rfl⟩ := h
  have hall : ∀ c ∈ openers, isGap c = false := by simp [openers, isGap]
  exact begun_cons (hall c hc)

theorem Reads.begun_value {j : Json} (h : Reads S depth .value j text rest) : Begun text :=
  begun_of_head h.head_value

theorem Reads.begun_item {b : Bracket} {i : b.Item} (h : Reads S depth (.item b) i text rest) :
    Begun text :=
  begun_of_head h.head_item

theorem Reads.closing_ne {b : Bracket} {i : b.Item} (h : Reads S depth (.item b) i text rest)
    (more : List Char) : b.closing :: more ≠ text := by
  obtain ⟨c, hc, more', rfl⟩ := h.head_item
  have hall : ∀ c ∈ openers, b.closing ≠ c := by
    cases b <;> simp [openers, Bracket.closing]
  intro heq
  exact hall c hc (List.cons.inj heq).1

/-- What a phrase says can be told from any text of it, and so can its end. -/
theorem Reads.unique {depth' : Nat} (h : Reads .free depth p x text rest)
    (h' : Reads .free depth' p x' text' rest') (heq : text = text') : x = x' ∧ rest = rest' := by
  -- the first sign after white space tells which rule the other derivation ends with
  induction h generalizing depth' text' rest' with
  | null =>
      cases h' with
      | null => simpa using heq
      | _ => simp at heq
  | text spells =>
      cases h' with
      | text spells' =>
          obtain ⟨hs, hrest⟩ := spells.unique spells' (by simpa using heq)
          exact ⟨congrArg Json.text (String.toList_inj.mp hs), hrest⟩
      | _ => simp at heq
  | list _ ih =>
      cases h' with
      | list items' =>
          obtain ⟨rfl, hrest⟩ := ih items' (by simpa using heq)
          exact ⟨rfl, hrest⟩
      | _ => simp at heq
  | object _ ih =>
      cases h' with
      | object items' =>
          obtain ⟨rfl, hrest⟩ := ih items' (by simpa using heq)
          exact ⟨rfl, hrest⟩
      | _ => simp at heq
  | element _ ih =>
      cases h' with
      | element value' => exact ih value' heq
  | member spells before after value ih =>
      cases h' with
      | member spells' before' after' value' =>
          obtain ⟨hname, hcolon⟩ := spells.unique spells' (by simpa using heq)
          obtain ⟨-, hafter⟩ := sign_unique (by decide) (by decide) before before' hcolon
          have htext := value.begun_value.unique value'.begun_value after after' hafter
          obtain ⟨rfl, hrest⟩ := ih value' htext
          exact ⟨congrArg (·, _) (String.toList_inj.mp hname), hrest⟩
  | @none _ b _ _ gap =>
      cases h' with
      | none gap' =>
          obtain ⟨-, hrest⟩ := sign_unique (isGap_closing b) (isGap_closing b) gap gap' heq
          exact ⟨rfl, hrest⟩
      | first gap' item' =>
          -- no item begins with a closing bracket
          have hclosing := (begun_cons (isGap_closing b)).unique item'.begun_item gap gap' heq
          exact absurd hclosing (item'.closing_ne _)
  | @first _ b _ _ _ _ _ _ gap item _ ihItem ihOthers =>
      cases h' with
      | none gap' =>
          have hclosing := (begun_cons (isGap_closing b)).unique item.begun_item gap' gap heq.symm
          exact absurd hclosing (item.closing_ne _)
      | first gap' item' others' =>
          have htext := item.begun_item.unique item'.begun_item gap gap' heq
          obtain ⟨rfl, hnext⟩ := ihItem item' htext
          obtain ⟨rfl, hrest⟩ := ihOthers others' hnext
          exact ⟨rfl, hrest⟩
  | @last _ b _ _ gap =>
      cases h' with
      | last gap' =>
          obtain ⟨-, hrest⟩ := sign_unique (isGap_closing b) (isGap_closing b) gap gap' heq
          exact ⟨rfl, hrest⟩
      | next before' =>
          obtain ⟨hcomma, -⟩ := sign_unique (isGap_closing b) (by decide) gap before' heq
          exact absurd hcomma (closing_ne_comma b)
  | @next _ b _ _ _ _ _ _ _ before after item _ ihItem ihOthers =>
      cases h' with
      | last gap' =>
          obtain ⟨hcomma, -⟩ := sign_unique (isGap_closing b) (by decide) gap' before heq.symm
          exact absurd hcomma (closing_ne_comma b)
      | next before' after' item' others' =>
          obtain ⟨-, hafter⟩ := sign_unique (by decide) (by decide) before before' heq
          have htext := item.begun_item.unique item'.begun_item after after' hafter
          obtain ⟨rfl, hnext⟩ := ihItem item' htext
          obtain ⟨rfl, hrest⟩ := ihOthers others' hnext
          exact ⟨rfl, hrest⟩

/-- A text is JSON for one value at most. -/
theorem IsText.unique {s : String} {j j' : Json} (h : IsText s j) (h' : IsText s j') : j = j' := by
  obtain ⟨before, body, after, hbefore, -, hs, hreads⟩ := h
  obtain ⟨before', body', after', hbefore', -, hs', hreads'⟩ := h'
  have hbody := hreads.begun_value.unique hreads'.begun_value hbefore hbefore'
    (hs.symm.trans hs')
  exact (hreads.unique hreads' hbody).1

/-! ## The written form -/

theorem small_of_not_plain (hplain : ¬ IsPlain c) (hshort : ∀ letter, (c, letter) ∉ shortEscapes) :
    c.toNat < 0x20 := by
  by_contra hlarge
  refine hplain ⟨Nat.le_of_not_lt hlarge, ?_, ?_⟩
  · rintro rfl
    exact hshort '"' (by decide)
  · rintro rfl
    exact hshort '\\' (by decide)

theorem isUnit_toDigits {n : Nat} (h : n < 0x20) :
    IsUnit ((Nat.toDigits 16 n).leftpad 4 '0') n := by
  have hlength : ∀ n < 0x20, ((Nat.toDigits 16 n).leftpad 4 '0').length = 4 := by decide
  have hhex : ∀ n < 0x20, ((Nat.toDigits 16 n).leftpad 4 '0').all isHexDigit = true := by decide
  have hvalue : ∀ n < 0x20, numberOf 16 ((Nat.toDigits 16 n).leftpad 4 '0') = n := by decide
  exact ⟨hlength n h, hhex n h, hvalue n h⟩

theorem indented_within_free : Style.indented.Within .free where
  gap := by
    intro place depth blank hgap
    have hline : ('\n' :: List.replicate (2 * depth) ' ').all isGap = true := by
      refine List.all_eq_true.mpr fun c hc => ?_
      rcases List.mem_cons.mp hc with rfl | hc
      · decide
      · rw [List.eq_of_mem_replicate hc]
        decide
    cases place with
    | opening | closing | afterComma => exact hgap ▸ hline
    | betweenBrackets | beforeComma | beforeColon | afterColon =>
        cases hgap
        rfl
  spelling := by
    rintro c spelled (⟨hplain, rfl⟩ | ⟨-, letter, hshort, rfl⟩ | ⟨hplain, hshort, rfl⟩)
    · exact .plain hplain
    · exact .short hshort
    · exact .unit (isUnit_toDigits (small_of_not_plain hplain hshort))

theorem escapeChar_of_plain (h : IsPlain c) : escapeChar c = [c] := by
  have hne : ∀ d, ¬ IsPlain d → c ≠ d := by
    rintro d hd rfl
    exact hd h
  simp [escapeChar, hne '"' (by decide), hne '\\' (by decide), hne '\n' (by decide),
    hne '\r' (by decide), hne '\t' (by decide), hne '\x08' (by decide), hne '\x0c' (by decide),
    Nat.not_lt.mpr h.1]

theorem escapeChar_of_short {letter : Char} (hplain : ¬ IsPlain c)
    (hshort : (c, letter) ∈ shortEscapes) : escapeChar c = ['\\', letter] := by
  have hall : ∀ e ∈ shortEscapes, ¬ IsPlain e.1 → escapeChar e.1 = ['\\', e.2] := by decide
  exact hall _ hshort hplain

theorem escapeChar_of_small (hsmall : c.toNat < 0x20)
    (hshort : ∀ letter, (c, letter) ∉ shortEscapes) :
    escapeChar c = '\\' :: 'u' :: (Nat.toDigits 16 c.toNat).leftpad 4 '0' := by
  have hall : ∀ n < 0x20, (∀ e ∈ shortEscapes, e.1 ≠ Char.ofNat n) →
      escapeChar (Char.ofNat n) = '\\' :: 'u' :: (Nat.toDigits 16 n).leftpad 4 '0' := by decide
  have hc := hall c.toNat hsmall
  rw [Char.ofNat_toNat] at hc
  refine hc fun e he heq => hshort e.2 ?_
  rwa [← heq]

/-- Every character is escaped as the style wants it. -/
theorem spelling_escapeChar (c : Char) : Style.indented.spelling c (escapeChar c) := by
  by_cases hplain : IsPlain c
  · exact Or.inl ⟨hplain, escapeChar_of_plain hplain⟩
  · by_cases hshort : ∃ letter, (c, letter) ∈ shortEscapes
    · obtain ⟨letter, hletter⟩ := hshort
      exact Or.inr (Or.inl ⟨hplain, letter, hletter, escapeChar_of_short hplain hletter⟩)
    · rw [not_exists] at hshort
      have hsmall := small_of_not_plain hplain hshort
      exact Or.inr (Or.inr ⟨hplain, hshort, escapeChar_of_small hsmall hshort⟩)

theorem spells_escape (cs rest : List Char) :
    Spells .indented cs (cs.flatMap escapeChar ++ '"' :: rest) rest := by
  induction cs with
  | nil => exact .close
  | cons c cs ih =>
      rw [List.flatMap_cons, List.append_assoc]
      exact .char (spelling_escapeChar c) ih

mutual

/-- The written form of a value is a text of it that begins at its level. -/
theorem reads_layout (depth : Nat) (rest : List Char) (j : Json) :
    Reads .indented depth .value j (layout depth j ++ rest) rest :=
  match j with
  | .null => .null
  | .text s => by
      have hspells := spells_escape s.toList rest
      simpa [layout, escape] using Reads.text hspells
  | .list [] =>
      have hitems : Reads .indented depth (.items .square) []
        ([] ++ Bracket.square.closing :: rest) rest := .none rfl
      .list hitems
  | .list (j :: js) => by
      have hitem := Reads.element (reads_layout (depth + 1)
        (layoutItems (depth + 1) js ++ newLine depth ++ ']' :: rest) j)
      have hothers := reads_layoutItems depth rest js
      have hitems := Reads.first rfl hitem hothers
      simpa [layout, newLine] using Reads.list hitems
  | .object [] =>
      have hitems : Reads .indented depth (.items .curly) []
        ([] ++ Bracket.curly.closing :: rest) rest := .none rfl
      .object hitems
  | .object (m :: ms) => by
      have hitem := reads_layoutMember (depth + 1)
        (layoutMembers (depth + 1) ms ++ newLine depth ++ '\x7d' :: rest) m
      have hothers := reads_layoutMembers depth rest ms
      have hitems := Reads.first rfl hitem hothers
      simpa [layout, newLine] using Reads.object hitems
termination_by structural j

theorem reads_layoutItems (depth : Nat) (rest : List Char) (js : List Json) :
    Reads .indented depth (.others .square) js
      (layoutItems (depth + 1) js ++ newLine depth ++ ']' :: rest) rest :=
  match js with
  | [] => .last rfl
  | j :: js => by
      have hitem := Reads.element (reads_layout (depth + 1)
        (layoutItems (depth + 1) js ++ newLine depth ++ ']' :: rest) j)
      have hothers := reads_layoutItems depth rest js
      simpa [layoutItems, newLine] using Reads.next rfl rfl hitem hothers
termination_by structural js

theorem reads_layoutMembers (depth : Nat) (rest : List Char) (ms : List (String × Json)) :
    Reads .indented depth (.others .curly) ms
      (layoutMembers (depth + 1) ms ++ newLine depth ++ '\x7d' :: rest) rest :=
  match ms with
  | [] => .last rfl
  | m :: ms => by
      have hitem := reads_layoutMember (depth + 1)
        (layoutMembers (depth + 1) ms ++ newLine depth ++ '\x7d' :: rest) m
      have hothers := reads_layoutMembers depth rest ms
      simpa [layoutMembers, newLine] using Reads.next rfl rfl hitem hothers
termination_by structural ms

theorem reads_layoutMember (depth : Nat) (rest : List Char) (m : String × Json) :
    Reads .indented depth (.item .curly) m (layoutMember depth m ++ rest) rest :=
  match m with
  | (name, j) => by
      have hvalue := reads_layout depth rest j
      have hspells := spells_escape name.toList ([] ++ ':' :: ([' '] ++ (layout depth j ++ rest)))
      simpa [layoutMember, escape] using Reads.member hspells rfl rfl hvalue
termination_by structural m

end

/-- The written form of a value is a text of it, also with white space after it. -/
theorem isText_pretty (j : Json) {after : String} (hafter : after.toList.all isGap = true) :
    IsText (j.pretty ++ after) j := by
  have hreads := (reads_layout 0 after.toList j).mono indented_within_free
  exact ⟨[], _, _, rfl, hafter, by simp [pretty], hreads⟩

end Json

end ShellPipeline
