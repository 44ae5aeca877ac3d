import Mathlib.Data.List.Chain
import ShellPipeline.Line.Lexer

/-!
# Lexemes

The lexical grammar of a line, said without the lexer. A line is a sequence of white-space
characters, operators and words. A word is a run of pieces, each of which is a character that
stands for itself, an escaped character, or a quoted text. Of the ways to divide a line only those
count in which words are as long as they can be and `>` is paired from the left.

The lexer answers the tokens of a line exactly when the grammar derives them. Every other line ends
after a lone backslash or inside quotes, and never both.
-/

namespace ShellPipeline

/-! ## The grammar -/

/-- A character that stands for itself outside quotes. -/
structure IsPlain (c : Char) : Prop where
  notBlank : isBlank c = false
  notSpecial : c ∉ ['|', '<', '>', '\\', '\'', '"']

/-- What a text between double quotes is made of. -/
inductive DoubleItem where
  | plain (c : Char) (ordinary : c ≠ '"' ∧ c ≠ '\\')
  /-- A backslash and the character after it. -/
  | escaped (c : Char)

namespace DoubleItem

def text : DoubleItem → List Char
  | plain c _ => [c]
  | escaped c => ['\\', c]

/-- A backslash is kept unless it stands before a double quote or another backslash. -/
def meaning : DoubleItem → List Char
  | plain c _ => [c]
  | escaped c => if c = '"' ∨ c = '\\' then [c] else ['\\', c]

end DoubleItem

/-- What a word is made of. -/
inductive Piece where
  | bare (c : Char) (plain : IsPlain c)
  /-- A backslash and the character after it, whatever that is. -/
  | escaped (c : Char)
  | single (cs : List Char) (unquoted : '\'' ∉ cs)
  | double (items : List DoubleItem)

namespace Piece

def text : Piece → List Char
  | bare c _ => [c]
  | escaped c => ['\\', c]
  | single cs _ => '\'' :: cs ++ ['\'']
  | double items => '"' :: items.flatMap DoubleItem.text ++ ['"']

def meaning : Piece → List Char
  | bare c _ => [c]
  | escaped c => [c]
  | single cs _ => cs
  | double items => items.flatMap DoubleItem.meaning

theorem text_eq_cons (p : Piece) :
    ∃ c cs, p.text = c :: cs ∧ c ≠ '>' ∧ isBlank c = false := by
  cases p with
  | bare c plain =>
      refine ⟨c, [], rfl, ?_, plain.notBlank⟩
      rintro rfl
      exact plain.notSpecial (by decide)
  | escaped c => exact ⟨'\\', [c], rfl, by decide, by decide⟩
  | single cs _ => exact ⟨'\'', cs ++ ['\''], rfl, by decide, by decide⟩
  | double items => exact ⟨'"', _, rfl, by decide, by decide⟩

end Piece

/-- A smallest part of a line. -/
inductive Lexeme where
  | blank (c : Char) (isBlank : isBlank c = true)
  | pipe
  | redirect (r : Redirect)
  | word (pieces : List Piece) (nonempty : pieces ≠ [])

namespace Lexeme

def text : Lexeme → List Char
  | blank c _ => [c]
  | pipe => ['|']
  | redirect r => r.symbol.toList
  | word pieces _ => pieces.flatMap Piece.text

def token? : Lexeme → Option Token
  | blank .. => none
  | pipe => some .pipe
  | redirect r => some (.item (.redirect r))
  | word pieces _ => some (.item (.word (String.ofList (pieces.flatMap Piece.meaning))))

def isWord : Lexeme → Bool
  | word .. => true
  | _ => false

/-- Two lexemes may stand next to each other. -/
structure Apart (x y : Lexeme) : Prop where
  /-- A word is a maximal run of pieces. -/
  maximal : x.isWord = true → y.isWord = false
  /-- A `>` before another one is read together with it. -/
  greedy : x = redirect (.output .truncate) → ∀ mode, y ≠ redirect (.output mode)

end Lexeme

/-- The lexemes are a division of a line, and have these tokens. -/
structure Divides (lexemes : List Lexeme) (line : List Char) (tokens : List Token) : Prop where
  apart : lexemes.IsChain Lexeme.Apart
  text : lexemes.flatMap Lexeme.text = line
  tokens : lexemes.filterMap Lexeme.token? = tokens

def Derives (line : List Char) (tokens : List Token) : Prop :=
  ∃ lexemes, Divides lexemes line tokens

/-- A quote is opened and what follows it does not close it. -/
inductive OpenQuote : List Char → Prop
  | single (cs : List Char) (unquoted : '\'' ∉ cs) : OpenQuote ('\'' :: cs)
  | double (items : List DoubleItem) : OpenQuote ('"' :: items.flatMap DoubleItem.text)
  /-- Between double quotes the line ends after a backslash. -/
  | doubleEscaped (items : List DoubleItem) :
      OpenQuote ('"' :: items.flatMap DoubleItem.text ++ ['\\'])

/-- A line that has tokens is followed by a single backslash. -/
def HangingEscape (line : List Char) : Prop :=
  ∃ before tokens, Derives before tokens ∧ line = before ++ ['\\']

/-- A line that has tokens is followed by a quote that is not closed. -/
def HangingQuote (line : List Char) : Prop :=
  ∃ before tokens quote, Derives before tokens ∧ OpenQuote quote ∧ line = before ++ quote

/-! ## Reading one piece after the other -/

namespace Lexer

variable {tokens : Array Token} {word : Option String} {w : String} {c : Char}

@[simp] theorem run_nil (l : Lexer) : l.run [] = l := rfl

@[simp] theorem run_cons (l : Lexer) (c : Char) (cs : List Char) :
    l.run (c :: cs) = (l.step c).run cs := rfl

theorem readBare_blank (h : isBlank c = true) :
    readBare tokens word c = ⟨flush tokens word, .bare none⟩ := by
  rw [readBare, if_pos h]

theorem readBare_plain (h : IsPlain c) :
    readBare tokens word c = ⟨tokens, .bare (some (word.getD "" ++ String.ofList [c]))⟩ := by
  have hspecial := h.notSpecial
  simp only [List.mem_cons, List.not_mem_nil, or_false, not_or] at hspecial
  obtain ⟨hpipe, hless, hgreat, hescape, hsingle, hdouble⟩ := hspecial
  simp [readBare, h.notBlank, hpipe, hless, hgreat, hescape, hsingle, hdouble]

theorem readBare_pipe : readBare tokens word '|' = ⟨(flush tokens word).push .pipe, .bare none⟩ :=
  rfl

theorem readBare_less :
    readBare tokens word '<' = ⟨(flush tokens word).push (.item (.redirect .input)), .bare none⟩ :=
  rfl

theorem readBare_great : readBare tokens word '>' = ⟨flush tokens word, .great⟩ := rfl

theorem readBare_escape : readBare tokens word '\\' = ⟨tokens, .escaped (word.getD "")⟩ := rfl

theorem readBare_single : readBare tokens word '\'' = ⟨tokens, .single (word.getD "")⟩ := rfl

theorem readBare_double : readBare tokens word '"' = ⟨tokens, .double (word.getD "")⟩ := rfl

theorem push_append_ofList (w : String) (c : Char) (cs : List Char) :
    w.push c ++ String.ofList cs = w ++ String.ofList (c :: cs) :=
  String.ext (by simp)

theorem run_single {cs : List Char} (h : '\'' ∉ cs) :
    run ⟨tokens, .single w⟩ cs = ⟨tokens, .single (w ++ String.ofList cs)⟩ := by
  induction cs generalizing w with
  | nil => simp
  | cons c cs ih =>
      obtain ⟨hc, hcs⟩ : '\'' ≠ c ∧ '\'' ∉ cs := by simpa using h
      rw [run_cons, step, if_neg (Ne.symm hc), ih hcs, push_append_ofList]

theorem run_doubleItem (item : DoubleItem) :
    run ⟨tokens, .double w⟩ item.text = ⟨tokens, .double (w ++ String.ofList item.meaning)⟩ := by
  cases item with
  | plain c ordinary => simp [DoubleItem.text, DoubleItem.meaning, step, ordinary]
  | escaped c =>
      by_cases hc : c = '"' ∨ c = '\\' <;>
        simp [DoubleItem.text, DoubleItem.meaning, step, isDoubleEscape, hc, String.ext_iff]

theorem run_double (items : List DoubleItem) :
    run ⟨tokens, .double w⟩ (items.flatMap DoubleItem.text) =
      ⟨tokens, .double (w ++ String.ofList (items.flatMap DoubleItem.meaning))⟩ := by
  induction items generalizing w with
  | nil => simp
  | cons item items ih => simp [run_doubleItem, ih, String.append_assoc]

/-- A piece adds its meaning to the word that has begun. -/
theorem run_piece (p : Piece) :
    run ⟨tokens, .bare word⟩ p.text =
      ⟨tokens, .bare (some (word.getD "" ++ String.ofList p.meaning))⟩ := by
  cases p with
  | bare c plain => simp [Piece.text, Piece.meaning, step, readBare_plain plain]
  | escaped c => simp [Piece.text, Piece.meaning, step, readBare_escape]
  | single cs unquoted =>
      simp [Piece.text, Piece.meaning, step, readBare_single, run_single unquoted]
  | double items => simp [Piece.text, Piece.meaning, step, readBare_double, run_double]

theorem run_pieces (p : Piece) (ps : List Piece) :
    run ⟨tokens, .bare word⟩ ((p :: ps).flatMap Piece.text) =
      ⟨tokens, .bare (some (word.getD "" ++ String.ofList ((p :: ps).flatMap Piece.meaning)))⟩ := by
  induction ps generalizing p word with
  | nil => simp [run_piece]
  | cons q ps ih =>
      rw [List.flatMap_cons, run_append, run_piece, ih]
      simp [String.append_assoc]

/-! ## Reading one lexeme after the other -/

/-- The lexer after a lexeme, when the tokens before it are given. A word and a `>` are not done
with before the next character is seen. -/
def after (before : List Token) : Lexeme → Lexer
  | .blank _ _ => ⟨before.toArray, .bare none⟩
  | .pipe => ⟨(before ++ [Token.pipe]).toArray, .bare none⟩
  | .redirect .input => ⟨(before ++ [Token.item (.redirect .input)]).toArray, .bare none⟩
  | .redirect (.output .truncate) => ⟨before.toArray, .great⟩
  | .redirect (.output .append) =>
    ⟨(before ++ [Token.item (.redirect (.output .append))]).toArray, .bare none⟩
  | .word pieces _ =>
    ⟨before.toArray, .bare (some (String.ofList (pieces.flatMap Piece.meaning)))⟩

variable {before : List Token} {x y : Lexeme}

theorem finish_after (before : List Token) (x : Lexeme) :
    (after before x).finish = .ok (before ++ x.token?.toList) := by
  rcases x with _ | _ | (_ | _ | _) | _ <;> simp [after, finish, flush, Lexeme.token?]

/-- Unless the next character is a `>`, it is read as it would be outside quotes, with a word only
after a word. -/
theorem step_after (before : List Token) (x : Lexeme) (hc : c ≠ '>') :
    ∃ (tokens : Array Token) (word : Option String),
      (after before x).step c = readBare tokens word c ∧
      flush tokens word = (before ++ x.token?.toList).toArray ∧
      (x.isWord = false → word = none) := by
  rcases x with ⟨d, hd⟩ | _ | (_ | _ | _) | ⟨pieces, hne⟩
  · exact ⟨_, none, rfl, by simp [flush, Lexeme.token?], fun _ => rfl⟩
  · exact ⟨_, none, rfl, by simp [flush, Lexeme.token?], fun _ => rfl⟩
  · exact ⟨_, none, rfl, by simp [flush, Lexeme.token?], fun _ => rfl⟩
  · exact ⟨_, none, if_neg hc, by simp [flush, Lexeme.token?], fun _ => rfl⟩
  · exact ⟨_, none, rfl, by simp [flush, Lexeme.token?], fun _ => rfl⟩
  · exact ⟨_, some _, rfl, by simp [flush, Lexeme.token?], fun h => by cases h⟩

theorem step_after_great (before : List Token) (h : x ≠ .redirect (.output .truncate)) :
    (after before x).step '>' = ⟨(before ++ x.token?.toList).toArray, .great⟩ := by
  rcases x with _ | _ | (_ | _ | _) | _
  · simp [after, step, readBare_great, flush, Lexeme.token?]
  · simp [after, step, readBare_great, flush, Lexeme.token?]
  · simp [after, step, readBare_great, flush, Lexeme.token?]
  · exact absurd rfl h
  · simp [after, step, readBare_great, flush, Lexeme.token?]
  · simp [after, step, readBare_great, flush, Lexeme.token?]

theorem run_after (before : List Token) (h : x.Apart y) :
    (after before x).run y.text = after (before ++ x.token?.toList) y := by
  rcases y with ⟨c, hc⟩ | _ | (_ | mode) | ⟨pieces, hne⟩
  · have hgreat : c ≠ '>' := by
      rintro rfl
      exact absurd hc (by decide)
    obtain ⟨tokens, word, hstep, htokens, -⟩ := step_after before x hgreat
    change (after before x).step c = _
    rw [hstep, readBare_blank hc, htokens, after]
  · obtain ⟨tokens, word, hstep, htokens, -⟩ := step_after before x (c := '|') (by decide)
    change (after before x).step '|' = _
    rw [hstep, readBare_pipe, htokens, List.push_toArray, after]
  · obtain ⟨tokens, word, hstep, htokens, -⟩ := step_after before x (c := '<') (by decide)
    change (after before x).step '<' = _
    rw [hstep, readBare_less, htokens, List.push_toArray, after]
  · have hgreat := step_after_great before (x := x) fun heq => h.greedy heq mode rfl
    cases mode with
    | truncate => exact hgreat
    | append =>
        change ((after before x).step '>').step '>' = _
        rw [hgreat, after, ← List.push_toArray]
        rfl
  · obtain ⟨p, ps, rfl⟩ := List.exists_cons_of_ne_nil hne
    obtain ⟨c, cs, hcs, hgreat, -⟩ := p.text_eq_cons
    obtain ⟨tokens, word, hstep, htokens, hword⟩ := step_after before x hgreat
    have hx : x.isWord = false := Bool.eq_false_iff.mpr fun hx => Bool.noConfusion (h.maximal hx)
    obtain rfl : word = none := hword hx
    have hrun : (after before x).run ((p :: ps).flatMap Piece.text) =
        run ⟨tokens, .bare none⟩ ((p :: ps).flatMap Piece.text) := by
      rw [List.flatMap_cons, hcs, List.cons_append, run_cons, run_cons, hstep]
      rfl
    have hflush : tokens = (before ++ x.token?.toList).toArray := htokens
    rw [Lexeme.text, hrun, run_pieces, hflush, after]
    simp

theorem run_lexemes (before : List Token) {lexemes : List Lexeme}
    (h : (x :: lexemes).IsChain Lexeme.Apart) :
    ∃ (most : List Token) (last : Lexeme),
      (after before x).run (lexemes.flatMap Lexeme.text) = after most last ∧
      most ++ last.token?.toList = before ++ (x :: lexemes).filterMap Lexeme.token? := by
  induction lexemes generalizing before x with
  | nil => exact ⟨before, x, rfl, by cases hx : x.token? <;> simp [hx]⟩
  | cons y lexemes ih =>
      obtain ⟨hxy, hchain⟩ := List.isChain_cons_cons.mp h
      obtain ⟨most, last, hrun, htokens⟩ := ih (before ++ x.token?.toList) hchain
      refine ⟨most, last, ?_, ?_⟩
      · rw [List.flatMap_cons, run_append, run_after before hxy, hrun]
      · rw [htokens]
        cases hx : x.token? <;> simp [hx]

end Lexer

/-! ## What the lexer answers -/

variable {line : List Char} {tokens : List Token}

theorem Lexeme.blank_apart {c : Char} (hc : isBlank c = true) (y : Lexeme) :
    (blank c hc).Apart y :=
  ⟨by simp [isWord], by simp⟩

theorem Lexeme.apart_blank {c : Char} (hc : isBlank c = true) (x : Lexeme) :
    x.Apart (blank c hc) :=
  ⟨fun _ => rfl, by simp⟩

theorem Lexeme.apart_pipe (x : Lexeme) : x.Apart pipe :=
  ⟨fun _ => rfl, by simp⟩

theorem Lexeme.apart_input (x : Lexeme) : x.Apart (redirect .input) :=
  ⟨fun _ => rfl, by simp⟩

/-- A division of a line says what the lexer has read of it, but for the last token. -/
theorem Derives.run_eq (h : Derives line tokens) :
    ∃ (before : List Token) (x : Lexeme),
      Lexer.run {} line = Lexer.after before x ∧ before ++ x.token?.toList = tokens := by
  obtain ⟨lexemes, hchain, rfl, rfl⟩ := h
  -- the lexer begins as it would be after white space, to which nothing comes too close
  have hblank : (Lexeme.blank ' ' rfl :: lexemes).IsChain Lexeme.Apart :=
    List.isChain_cons.mpr ⟨fun y _ => Lexeme.blank_apart rfl y, hchain⟩
  obtain ⟨most, last, hrun, htokens⟩ := Lexer.run_lexemes [] hblank
  exact ⟨most, last, hrun, htokens⟩

/-- Whoever divides a line into lexemes finds the tokens of the lexer. -/
theorem Derives.finish_eq (h : Derives line tokens) : (Lexer.run {} line).finish = .ok tokens := by
  obtain ⟨before, x, hrun, rfl⟩ := h.run_eq
  rw [hrun, Lexer.finish_after]

theorem HangingEscape.finish_eq (h : HangingEscape line) :
    (Lexer.run {} line).finish = .error .trailingEscape := by
  obtain ⟨before, tokens, hbefore, rfl⟩ := h
  obtain ⟨most, last, hrun, -⟩ := hbefore.run_eq
  obtain ⟨ts, word, hstep, -⟩ := Lexer.step_after most last (c := '\\') (by decide)
  rw [Lexer.run_append, hrun, Lexer.run_cons, hstep]
  rfl

/-- A quote that is not closed is what the lexer complains about. -/
theorem HangingQuote.finish_eq (h : HangingQuote line) :
    (Lexer.run {} line).finish = .error .unterminatedQuote := by
  obtain ⟨before, tokens, quote, hbefore, hquote, rfl⟩ := h
  obtain ⟨most, last, hrun, -⟩ := hbefore.run_eq
  rw [Lexer.run_append, hrun]
  cases hquote with
  | single cs unquoted =>
      obtain ⟨ts, word, hstep, -⟩ := Lexer.step_after most last (c := '\'') (by decide)
      rw [Lexer.run_cons, hstep, Lexer.readBare_single, Lexer.run_single unquoted]
      rfl
  | double items =>
      obtain ⟨ts, word, hstep, -⟩ := Lexer.step_after most last (c := '"') (by decide)
      rw [Lexer.run_cons, hstep, Lexer.readBare_double, Lexer.run_double]
      rfl
  | doubleEscaped items =>
      obtain ⟨ts, word, hstep, -⟩ := Lexer.step_after most last (c := '"') (by decide)
      rw [List.cons_append, Lexer.run_cons, hstep, Lexer.readBare_double, Lexer.run_append,
        Lexer.run_double]
      rfl

/-! ## Every line is of one of three kinds -/

def Legible (line : List Char) : Prop :=
  ∃ tokens, Derives line tokens

theorem legible_iff : Legible line ↔
    ∃ lexemes : List Lexeme, lexemes.IsChain Lexeme.Apart ∧ lexemes.flatMap Lexeme.text = line :=
  ⟨fun ⟨_, lexemes, hchain, htext, _⟩ => ⟨lexemes, hchain, htext⟩,
    fun ⟨lexemes, hchain, htext⟩ => ⟨_, lexemes, hchain, htext, rfl⟩⟩

theorem isChain_concat_iff {R : Lexeme → Lexeme → Prop} {lexemes : List Lexeme} {x : Lexeme} :
    (lexemes ++ [x]).IsChain R ↔ lexemes.IsChain R ∧ ∀ y ∈ lexemes.getLast?, R y x := by
  simp [List.isChain_append]

theorem Legible.lexeme (h : Legible line) {x : Lexeme}
    (hx : ∀ y : Lexeme, y.Apart x) : Legible (line ++ x.text) := by
  obtain ⟨lexemes, hchain, rfl⟩ := legible_iff.mp h
  refine legible_iff.mpr ⟨lexemes ++ [x], ?_, by simp⟩
  exact isChain_concat_iff.mpr ⟨hchain, fun y _ => hx y⟩

/-- A piece goes on with the last word, or begins one. -/
theorem Legible.piece (h : Legible line) (p : Piece) : Legible (line ++ p.text) := by
  obtain ⟨lexemes, hchain, rfl⟩ := legible_iff.mp h
  rcases List.eq_nil_or_concat' lexemes with rfl | ⟨most, last, rfl⟩
  · exact legible_iff.mpr ⟨[.word [p] (by simp)], by simp, by simp [Lexeme.text]⟩
  · rcases hlast : last.isWord with _ | _
    · refine legible_iff.mpr ⟨most ++ [last] ++ [.word [p] (by simp)], ?_, by simp [Lexeme.text]⟩
      refine isChain_concat_iff.mpr ⟨hchain, ?_⟩
      simpa using ⟨by simp [hlast], by simp⟩
    · rcases last with _ | _ | _ | ⟨pieces, hne⟩
      · cases hlast
      · cases hlast
      · cases hlast
      · obtain ⟨hmost, hapart⟩ := isChain_concat_iff.mp hchain
        refine legible_iff.mpr
          ⟨most ++ [.word (pieces ++ [p]) (by simp)], ?_, by simp [Lexeme.text]⟩
        exact isChain_concat_iff.mpr ⟨hmost, fun y hy => ⟨(hapart y hy).maximal, by simp⟩⟩

/-- A `>` goes with the one before it, if that one is still alone. -/
theorem Legible.great (h : Legible line) : Legible (line ++ ['>']) := by
  obtain ⟨lexemes, hchain, rfl⟩ := legible_iff.mp h
  rcases List.eq_nil_or_concat' lexemes with rfl | ⟨most, last, rfl⟩
  · exact legible_iff.mpr ⟨[.redirect (.output .truncate)], by simp, rfl⟩
  · by_cases hlast : last = .redirect (.output .truncate)
    · subst hlast
      obtain ⟨hmost, hapart⟩ := isChain_concat_iff.mp hchain
      refine legible_iff.mpr ⟨most ++ [.redirect (.output .append)], ?_, ?_⟩
      · refine isChain_concat_iff.mpr ⟨hmost, fun y hy => ⟨fun _ => rfl, ?_⟩⟩
        intro heq
        exact absurd rfl ((hapart y hy).greedy heq .truncate)
      · have htext : (Lexeme.redirect (.output .append)).text =
            (Lexeme.redirect (.output .truncate)).text ++ ['>'] := rfl
        simp [htext]
    · refine legible_iff.mpr ⟨most ++ [last] ++ [.redirect (.output .truncate)], ?_, ?_⟩
      · refine isChain_concat_iff.mpr ⟨hchain, ?_⟩
        simpa using ⟨fun _ => rfl, fun heq => absurd heq hlast⟩
      · have htext : (Lexeme.redirect (.output .truncate)).text = ['>'] := rfl
        simp [htext]

/-- One more character leaves a line with a division, with a backslash at its end or with an open
quote. -/
theorem Legible.snoc (h : Legible line) (c : Char) :
    Legible (line ++ [c]) ∨ HangingEscape (line ++ [c]) ∨ HangingQuote (line ++ [c]) := by
  obtain ⟨tokens, htokens⟩ := id h
  by_cases hblank : isBlank c = true
  · exact Or.inl (h.lexeme (Lexeme.apart_blank hblank))
  by_cases hspecial : c ∈ ['|', '<', '>', '\\', '\'', '"']
  · simp only [List.mem_cons, List.not_mem_nil, or_false] at hspecial
    rcases hspecial with rfl | rfl | rfl | rfl | rfl | rfl
    · exact Or.inl (h.lexeme Lexeme.apart_pipe)
    · exact Or.inl (h.lexeme Lexeme.apart_input)
    · exact Or.inl h.great
    · exact Or.inr (Or.inl ⟨line, tokens, htokens, rfl⟩)
    · exact Or.inr (Or.inr ⟨line, tokens, _, htokens, .single [] (by simp), rfl⟩)
    · exact Or.inr (Or.inr ⟨line, tokens, _, htokens, .double [], rfl⟩)
  · exact Or.inl (h.piece (.bare c ⟨by simpa using hblank, hspecial⟩))

theorem HangingEscape.snoc (h : HangingEscape line) (c : Char) : Legible (line ++ [c]) := by
  obtain ⟨before, tokens, hbefore, rfl⟩ := h
  simpa [Piece.text] using Legible.piece ⟨tokens, hbefore⟩ (.escaped c)

/-- Within quotes a character closes them or is one of the quoted. -/
theorem HangingQuote.snoc (h : HangingQuote line) (c : Char) :
    Legible (line ++ [c]) ∨ HangingQuote (line ++ [c]) := by
  obtain ⟨before, tokens, quote, hbefore, hquote, rfl⟩ := h
  have hlegible : Legible before := ⟨tokens, hbefore⟩
  cases hquote with
  | single cs unquoted =>
      by_cases hc : c = '\''
      · subst hc
        exact Or.inl (by simpa [Piece.text] using hlegible.piece (.single cs unquoted))
      · refine Or.inr ⟨before, tokens, _, hbefore, .single (cs ++ [c]) ?_, by simp⟩
        simpa [unquoted] using Ne.symm hc
  | double items =>
      by_cases hclose : c = '"'
      · subst hclose
        exact Or.inl (by simpa [Piece.text] using hlegible.piece (.double items))
      by_cases hescape : c = '\\'
      · subst hescape
        exact Or.inr ⟨before, tokens, _, hbefore, .doubleEscaped items, by simp⟩
      · refine Or.inr ⟨before, tokens, _, hbefore,
          .double (items ++ [.plain c ⟨hclose, hescape⟩]), by simp [DoubleItem.text]⟩
  | doubleEscaped items =>
      exact Or.inr ⟨before, tokens, _, hbefore, .double (items ++ [.escaped c]),
        by simp [DoubleItem.text]⟩

/-- Every line has a division, ends in a backslash or has an open quote. -/
theorem legible_or_hanging (line : List Char) :
    Legible line ∨ HangingEscape line ∨ HangingQuote line := by
  induction line using List.reverseRecOn with
  | nil => exact Or.inl (legible_iff.mpr ⟨[], by simp, rfl⟩)
  | append_singleton line c ih =>
      rcases ih with h | h | h
      · exact h.snoc c
      · exact Or.inl (h.snoc c)
      · exact (h.snoc c).imp_right Or.inr

/-- Of every line exactly one is true: the grammar derives its tokens, which are then unique, and
the lexer answers them; or it is a line with tokens followed by a backslash, which is the fault;
or it is a line with tokens followed by a quote that is not closed, which is the fault. -/
theorem tokenize_lexical (line : String) :
    ((∃ tokens, tokenize line = .ok tokens ∧
        ∀ tokens', Derives line.toList tokens' ↔ tokens' = tokens) ∧
      ¬ HangingEscape line.toList ∧ ¬ HangingQuote line.toList) ∨
    (tokenize line = .error .trailingEscape ∧ HangingEscape line.toList ∧
      (∀ tokens, ¬ Derives line.toList tokens) ∧ ¬ HangingQuote line.toList) ∨
    (tokenize line = .error .unterminatedQuote ∧ HangingQuote line.toList ∧
      (∀ tokens, ¬ Derives line.toList tokens) ∧ ¬ HangingEscape line.toList) := by
  have hderives : ∀ tokens, Derives line.toList tokens → tokenize line = .ok tokens :=
    fun _ h => h.finish_eq
  have hescape : HangingEscape line.toList → tokenize line = .error .trailingEscape :=
    fun h => h.finish_eq
  have hquote : HangingQuote line.toList → tokenize line = .error .unterminatedQuote :=
    fun h => h.finish_eq
  rcases legible_or_hanging line.toList with ⟨tokens, h⟩ | h | h
  · have hok := hderives tokens h
    refine Or.inl ⟨⟨tokens, hok, fun tokens' => ⟨fun h' => ?_, fun heq => heq ▸ h⟩⟩, ?_, ?_⟩
    · exact Except.ok.inj ((hderives tokens' h').symm.trans hok)
    · intro h'
      cases hok.symm.trans (hescape h')
    · intro h'
      cases hok.symm.trans (hquote h')
  · have herror := hescape h
    refine Or.inr (Or.inl ⟨herror, h, ?_, ?_⟩)
    · intro tokens h'
      cases herror.symm.trans (hderives tokens h')
    · intro h'
      cases herror.symm.trans (hquote h')
  · have herror := hquote h
    refine Or.inr (Or.inr ⟨herror, h, ?_, ?_⟩)
    · intro tokens h'
      cases herror.symm.trans (hderives tokens h')
    · intro h'
      cases herror.symm.trans (hescape h')

end ShellPipeline
