import ShellPipeline.Proofs.Session.Fold
import ShellPipeline.Proofs.Text.Numeral

/-!
# What the history shows

The shown history has one line for each line that was entered, and what was entered can be read off
it, since a number is followed by two spaces and holds none. Those who enter lines and those who
show them have the same history, whatever is carried out in between.
-/

namespace ShellPipeline

namespace History

def ofLines (lines : List String) : History :=
  lines.foldl push {}

/-- A line as it is shown, without its end: its number, which takes five columns or as many as it
has digits, two spaces, and the line. -/
def shown (number : Nat) (line : String) : List Char :=
  (toString number).toList.leftpad 5 ' ' ++ [' ', ' '] ++ line.toList

/-- What a shown line says: what follows the spaces before its number, the number and two more
spaces. -/
def said (shown : List Char) : List Char :=
  ((shown.dropWhile (· = ' ')).dropWhile Char.isDigit).drop 2

def recover (text : String) : List String :=
  ((text.toList.splitOn '\n').dropLast.map said).map String.ofList

/-! ## Numbers -/

theorem renderNumber_eq (number : Nat) :
    renderNumber number = (toString number).toList.leftpad 5 ' ' := by
  rw [renderNumber, decimalDigits_eq, Nat.toString_eq_ofList_toDigits, String.toList_ofList]
  rfl

theorem isDigit_of_mem_toString {number : Nat} {c : Char} (h : c ∈ (toString number).toList) :
    c.isDigit = true := by
  rw [Nat.toString_eq_ofList_toDigits, String.toList_ofList] at h
  exact Nat.isDigit_of_mem_toDigits (by decide) (by decide) h

theorem toString_ne_nil (number : Nat) : (toString number).toList ≠ [] := by
  rw [Nat.toString_eq_ofList_toDigits, String.toList_ofList]
  exact Nat.toDigits_ne_nil

/-- A number takes five columns as long as it has no more digits. -/
theorem exists_blanks (number : Nat) (line : String) : ∃ blanks,
    shown number line =
      List.replicate blanks ' ' ++ (toString number).toList ++ [' ', ' '] ++ line.toList ∧
    (number < 100000 → blanks + (toString number).toList.length = 5) ∧
    (100000 ≤ number → blanks = 0) := by
  have hlength : (toString number).toList.length ≤ 5 ↔ number < 100000 := by
    rw [Nat.toString_eq_ofList_toDigits, String.toList_ofList]
    exact Nat.length_toDigits_le_iff (by decide) (by decide)
  refine ⟨5 - (toString number).toList.length, rfl, fun h => ?_, fun h => ?_⟩
  · have hfits := hlength.mpr h
    omega
  · have hwide : ¬ (toString number).toList.length ≤ 5 := fun hle =>
      Nat.not_lt_of_le h (hlength.mp hle)
    omega

theorem newline_not_mem_shown (number : Nat) {line : String} (h : '\n' ∉ line.toList) :
    '\n' ∉ shown number line := by
  obtain ⟨blanks, hshown, -⟩ := exists_blanks number line
  have hdigits : '\n' ∉ (toString number).toList := fun hmem =>
    absurd (isDigit_of_mem_toString hmem) (by decide)
  simp only [hshown, List.mem_append, List.mem_replicate, hdigits, h]
  simp

theorem said_shown (number : Nat) (line : String) : said (shown number line) = line.toList := by
  obtain ⟨blanks, hshown, -⟩ := exists_blanks number line
  obtain ⟨d, digits, hdigits⟩ := List.exists_cons_of_ne_nil (toString_ne_nil number)
  have hall : ∀ c ∈ d :: digits, c.isDigit = true := fun c hc =>
    isDigit_of_mem_toString (hdigits ▸ hc)
  have hd : d ≠ ' ' := by
    rintro rfl
    exact absurd (hall ' ' List.mem_cons_self) (by decide)
  have hblanks : ∀ c ∈ List.replicate blanks ' ', decide (c = ' ') = true := by
    intro c hc
    simp [List.eq_of_mem_replicate hc]
  have hnumber : (shown number line).dropWhile (· = ' ')
      = (d :: digits) ++ ([' ', ' '] ++ line.toList) := by
    rw [hshown, hdigits, List.append_assoc, List.append_assoc,
      List.dropWhile_append_of_pos hblanks, List.cons_append,
      List.dropWhile_cons_of_neg (by simpa using hd)]
  rw [said, hnumber, List.dropWhile_append_of_pos hall]
  rfl

/-! ## Histories -/

theorem toList_push (h : History) (line : String) :
    (h.push line).lines.toList = h.lines.toList ++ [line] := by
  simp [push]

theorem toList_ofLines (lines : List String) : (ofLines lines).lines.toList = lines := by
  induction lines using List.reverseRecOn with
  | nil => rfl
  | append_singleton lines line ih =>
      rw [ofLines, List.foldl_append, List.foldl_cons, List.foldl_nil, toList_push]
      exact congrArg (· ++ [line]) ih

theorem eq_ofLines (h : History) : h = ofLines h.lines.toList := by
  have hlines := toList_ofLines h.lines.toList
  exact congrArg History.mk (Array.toList_inj.mp hlines).symm

theorem renderLine_eq (number : Nat) (line : String) :
    renderLine number line = shown number line ++ ['\n'] := by
  rw [renderLine, renderNumber_eq, shown]

theorem renderFrom_append (number : Nat) (lines more : List String) :
    renderFrom number (lines ++ more)
      = renderFrom number lines ++ renderFrom (number + lines.length) more := by
  induction lines generalizing number with
  | nil => rfl
  | cons line lines ih =>
      rw [List.cons_append, renderFrom, renderFrom, ih, List.append_assoc, List.length_cons,
        Nat.add_right_comm, Nat.add_assoc]

/-- Lines are shown one after the other, each with an end of its own. -/
theorem splitOn_renderFrom (number : Nat) {lines : List String}
    (h : ∀ line ∈ lines, '\n' ∉ line.toList) :
    (renderFrom number lines).splitOn '\n'
      = (lines.zipIdx number).map (fun p => shown p.2 p.1) ++ [[]] := by
  induction lines generalizing number with
  | nil => exact List.splitOn_nil '\n'
  | cons line lines ih =>
      obtain ⟨hline, hlines⟩ := List.forall_mem_cons.mp h
      have hnone := newline_not_mem_shown number hline
      rw [renderFrom, renderLine_eq, List.append_assoc, List.singleton_append,
        List.splitOn_append_cons_self_of_not_mem hnone, ih (number + 1) hlines, List.zipIdx_cons,
        List.map_cons, List.cons_append]

/-- The shown history consists of the shown lines, and ends with a line feed. -/
theorem splitOn_render {lines : List String} (h : ∀ line ∈ lines, '\n' ∉ line.toList) :
    (ofLines lines).render.toList.splitOn '\n'
      = (lines.zipIdx 1).map (fun p => shown p.2 p.1) ++ [[]] := by
  rw [render, String.toList_ofList, toList_ofLines, splitOn_renderFrom 1 h]

/-- Nothing is lost when a history is shown: lines without a line feed can be read off again. -/
theorem recover_render {lines : List String} (h : ∀ line ∈ lines, '\n' ∉ line.toList) :
    recover (ofLines lines).render = lines := by
  have hsaid : (String.ofList ∘ said) ∘ (fun p : String × Nat => shown p.2 p.1) = Prod.fst := by
    funext p
    simp [said_shown]
  rw [recover, splitOn_render h, List.dropLast_concat, List.map_map, List.map_map, hsaid]
  exact List.zipIdx_map_fst 1 lines

/-- Another line adds its own shown line at the end and leaves the others as they were. -/
theorem render_concat (lines : List String) (line : String) :
    (ofLines (lines ++ [line])).render
      = (ofLines lines).render ++ String.ofList (shown (lines.length + 1) line ++ ['\n']) := by
  simp only [render, toList_ofLines, renderFrom_append, renderFrom, renderLine_eq,
    List.append_nil, String.ofList_append, Nat.add_comm]

end History

/-! ## Those who hold a history -/

/-- What is done to a session by one of those who hold its history: a line is entered, or a line is
carried out with the standard builtins, of which one shows the history. -/
inductive HistoryUse where
  | enter (line : String)
  | carryOut (line : String) (last : Status)

def HistoryUse.entered? : HistoryUse → Option String
  | enter line => some line
  | carryOut _ _ => none

namespace Session

variable {σ α η : Type} [Host σ α η] [Console σ]

def use (s : Session σ α η) : HistoryUse → Session σ α η
  | .enter line => { s with history := s.history.push line }
  | .carryOut line last => (dispatch Registry.standard line last s).2

/-- Only the entering of a line changes the history, to which it adds this line. -/
theorem history_use (s : Session σ α η) (u : HistoryUse) :
    (s.use u).history.lines.toList = s.history.lines.toList ++ u.entered?.toList := by
  cases u with
  | enter line => exact History.toList_push s.history line
  | carryOut line last =>
      rw [use, history_dispatch_standard, HistoryUse.entered?, Option.toList_none, List.append_nil]

/-- A history holds exactly the lines that were entered, whoever did so. -/
theorem history_uses (s : Session σ α η) (uses : List HistoryUse) :
    (uses.foldl use s).history.lines.toList
      = s.history.lines.toList ++ uses.filterMap HistoryUse.entered? := by
  induction uses generalizing s with
  | nil => simp
  | cons u uses ih =>
      rw [List.foldl_cons, ih, history_use, List.append_assoc, List.filterMap_cons]
      cases u.entered? <;> rfl

/-- The line `history` shows the history and nothing else happens. -/
theorem dispatch_history (last : Status) (s : Session σ α η) :
    dispatch Registry.standard "history" last s = (⟨0, false⟩, s.print s.history.render) := by
  have hroute : (Registry.standard : Registry (Session σ α η)).route "history"
      = .builtin Builtin.history ["history"] := rfl
  rw [dispatch, hroute]
  rfl

end Session

variable {σ α η : Type} [Host σ α η] [Console σ]

/-- A history of lines without line feeds is shown with one line for each of them, which holds its
number in five columns or more, two spaces and the line itself. So the lines can be recovered from
what is shown, and a further line only adds one line to it. No line that a conversation enters holds
a line feed, and everybody who shows the history of a session shows all lines that were entered,
whatever was carried out in between. -/
theorem History.render_recovers (s : Session σ α η) (lines : List String)
    (hlines : ∀ line ∈ lines, '\n' ∉ line.toList) :
    (ofLines lines).render.toList.splitOn '\n' =
        (lines.zipIdx 1).map (fun p => shown p.2 p.1) ++ [[]] ∧
    (∀ number line, ∃ blanks,
      shown number line =
        List.replicate blanks ' ' ++ (toString number).toList ++ [' ', ' '] ++ line.toList ∧
      (number < 100000 → blanks + (toString number).toList.length = 5) ∧
      (100000 ≤ number → blanks = 0)) ∧
    recover (ofLines lines).render = lines ∧
    (∀ lines' : List String, (∀ line ∈ lines', '\n' ∉ line.toList) →
      (ofLines lines').render = (ofLines lines).render → lines' = lines) ∧
    (∀ line, (ofLines (lines ++ [line])).render =
      (ofLines lines).render ++ String.ofList (shown (lines.length + 1) line ++ ['\n'])) ∧
    (∀ stream, ∀ line ∈ lineTexts stream, '\n' ∉ line.toList) ∧
    ∀ (uses : List HistoryUse) (last : Status),
      Session.dispatch Registry.standard "history" last (uses.foldl Session.use s) =
        (⟨0, false⟩, (uses.foldl Session.use s).print
          (ofLines (s.history.lines.toList ++ uses.filterMap HistoryUse.entered?)).render) := by
  refine ⟨splitOn_render hlines, exists_blanks, recover_render hlines, ?_, render_concat lines,
    fun _ _ => newline_not_mem_of_mem_lineTexts, ?_⟩
  · intro lines' hlines' hsame
    rw [← recover_render hlines', hsame, recover_render hlines]
  · intro uses last
    rw [Session.dispatch_history, ← Session.history_uses, ← eq_ofLines]

/-- Lines that are empty, or look like shown lines themselves. -/
def History.puzzling : List String :=
  ["", "  7  x", "12"]

theorem History.render_recovers_puzzling :
    (∀ line ∈ puzzling, '\n' ∉ line.toList) ∧
      (ofLines puzzling).render = "    1  \n    2    7  x\n    3  12\n" ∧
      recover (ofLines puzzling).render = puzzling ∧
      ∀ last, (Session.dispatch Registry.standard "history" last
        ((puzzling.map HistoryUse.enter).foldl Session.use (Machine.shellReading []))).1
          = ⟨0, false⟩ := by
  have hlines : ∀ line ∈ puzzling, '\n' ∉ line.toList := by decide
  obtain ⟨-, -, hrecover, -, -, -, huses⟩ :=
    render_recovers (Machine.shellReading []) puzzling hlines
  refine ⟨hlines, ?_, hrecover, fun last => ?_⟩
  · rw [render, toList_ofLines]
    simp only [puzzling, renderFrom, renderLine_eq]
    decide
  · rw [huses]

end ShellPipeline
