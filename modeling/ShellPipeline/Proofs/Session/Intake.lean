import ShellPipeline.Builtin.Standard
import ShellPipeline.Proofs.Text.Cut
import ShellPipeline.Session.Dispatch

/-!
# The standard input of a session

What a session still has to read is what it has read ahead, followed by what its console holds.
Reading a line takes exactly that line, in whatever pieces the input comes, and changes nothing
else. All that does not read leaves the input alone: it takes nothing, and it would do the same if
there were nothing to read.
-/

namespace ShellPipeline

variable {σ α η : Type} [Console σ]

/-- What there is to read from a console. -/
structure Intake (σ : Type) [Console σ] where
  /-- These bytes are still to be read, and then the input ends. -/
  Holds : σ → Bytes → Prop
  /-- The console without anything to read. -/
  drained : σ → σ
  read {host : σ} {bytes : Bytes} (count : Nat) : Holds host bytes →
    ∃ rest, bytes = (Console.read count host).1 ++ rest ∧ Holds (Console.read count host).2 rest
  read_nil {host : σ} {bytes : Bytes} (count : Nat) : Holds host bytes → 0 < count →
    (Console.read count host).1 = [] → bytes = []
  pending {host : σ} {bytes : Bytes} : Holds host bytes → bytes.length ≤ Console.pending host
  drained_read {host : σ} {bytes : Bytes} (count : Nat) : Holds host bytes →
    drained (Console.read count host).2 = drained host

/-- Requests of a shell other than reading have nothing to do with what there is to read. -/
structure Intake.Apart (i : Intake σ) : Prop where
  print {host : σ} {bytes : Bytes} (text : String) : i.Holds host bytes →
    i.Holds (Console.print text host) bytes
  drained_print (text : String) (host : σ) :
    i.drained (Console.print text host) = Console.print text (i.drained host)
  report {host : σ} {bytes : Bytes} (text : String) : i.Holds host bytes →
    i.Holds (Console.report text host) bytes
  drained_report (text : String) (host : σ) :
    i.drained (Console.report text host) = Console.report text (i.drained host)
  enter {host : σ} {bytes : Bytes} (path : String) : i.Holds host bytes →
    i.Holds (Console.enter path host).2 bytes
  enter_drained (path : String) (host : σ) : Console.enter path (i.drained host)
    = ((Console.enter path host).1, i.drained (Console.enter path host).2)
  directory_drained (host : σ) : Console.directory (i.drained host) = Console.directory host
  home_drained (host : σ) : Console.home (i.drained host) = Console.home host

namespace Session

variable {i : Intake σ} {s t : Session σ α η} {stream bytes held begun line rest : Bytes}

/-- These bytes are still to be read by a session. -/
def Left (i : Intake σ) (s : Session σ α η) (stream : Bytes) : Prop :=
  ∃ held, stream = s.ahead ++ held ∧ i.Holds s.shell.host held

/-- A conversation is given enough turns for all lines that are left. -/
theorem Left.length_linesOf_lt (hleft : s.Left i stream) :
    (linesOf stream).length < s.ahead.length + Console.pending s.shell.host + 1 := by
  obtain ⟨held, hstream, hheld⟩ := hleft
  have hlines := (cut_linesOf stream).length_le
  have hbound := i.pending hheld
  rw [hstream, List.length_append] at hlines
  rw [hstream]
  omega

def drained (i : Intake σ) (s : Session σ α η) : Session σ α η :=
  { s.mapHost i.drained with ahead := [] }

/-! ## Reading a line -/

/-- From one session to another a line was read, and nothing has changed but what is left. -/
structure Reads (i : Intake σ) (s : Session σ α η) (line rest : Bytes) (t : Session σ α η) :
    Prop where
  line_or_end : IsLine line rest ∨ line = [] ∧ rest = []
  left : t.Left i rest
  drained_eq : t.drained i = s.drained i

theorem isLine_or_nil (h : lineFeed ∉ bytes) : IsLine bytes [] ∨ bytes = [] := by
  rcases List.eq_nil_or_concat bytes with rfl | ⟨body, b, rfl⟩
  · exact Or.inr rfl
  · rw [List.concat_eq_append, List.mem_append, not_or] at h
    exact Or.inl ⟨body, b, List.concat_eq_append, h.1, Or.inr rfl⟩

theorem read_holds {host after : σ} {piece : Bytes} (hheld : i.Holds host held)
    (hread : Console.read readSize host = (piece, after)) :
    ∃ rest, held = piece ++ rest ∧ i.Holds after rest ∧ i.drained after = i.drained host ∧
      (piece = [] → held = []) := by
  obtain ⟨rest, hrest, hleft⟩ := i.read readSize hheld
  have hsame := i.drained_read readSize hheld
  have hend := i.read_nil readSize hheld (by decide)
  rw [hread] at hrest hleft hsame hend
  exact ⟨rest, hrest, hleft, hsame, hend⟩

theorem drained_mapHost {host : σ} (hsame : i.drained host = i.drained s.shell.host)
    (ahead : Bytes) : { s.mapHost fun _ => host with ahead }.drained i = s.drained i := by
  simp only [drained, mapHost, hsame]

/-- With enough reads the next line is read, and what was read beyond it is kept for the next
time. -/
theorem readOn_reads {reads : Nat} (hbegun : lineFeed ∉ begun) (hahead : s.ahead = [])
    (hheld : i.Holds s.shell.host held) (hreads : held.length < reads) :
    ∃ rest, begun ++ held = (s.readOn begun reads).1 ++ rest ∧
      Reads i s (s.readOn begun reads).1 rest (s.readOn begun reads).2 := by
  -- what is begun has no line feed yet, and every piece leaves less to be held than reads to come
  fun_induction readOn s begun reads generalizing held with
  | case1 => exact absurd hreads (Nat.not_lt_zero _)
  | case2 s begun reads piece host hread _ line ahead =>
      rename_i hsplit
      obtain ⟨rest, rfl, hleft, hsame, -⟩ := read_holds hheld hread
      obtain ⟨rfl, body, rfl, hbody⟩ := splitLine?_eq_some hsplit
      refine ⟨ahead ++ rest, ?_, Or.inl ⟨begun ++ body, lineFeed, ?_, ?_, Or.inl rfl⟩, ?_, ?_⟩
      · simp only [List.append_assoc]
      · simp only [List.append_assoc]
      · rw [List.mem_append, not_or]
        exact ⟨hbegun, hbody⟩
      · exact ⟨rest, rfl, hleft⟩
      · exact drained_mapHost hsame ahead
  | case3 s begun reads piece host hread _ hsplit =>
      rename_i hempty
      obtain ⟨rest, hrest, hleft, hsame, hend⟩ := read_holds hheld hread
      obtain rfl : held = [] := hend (List.isEmpty_iff.mp hempty)
      obtain rfl : rest = [] := (List.append_eq_nil_iff.mp hrest.symm).2
      refine ⟨[], rfl, (isLine_or_nil hbegun).imp_right fun h => ⟨h, rfl⟩, ?_, ?_⟩
      · exact ⟨[], by rw [List.append_nil]; exact hahead.symm, hleft⟩
      · exact drained_mapHost hsame []
  | case4 s begun reads piece host hread _ hsplit hempty =>
      rename_i ih
      obtain ⟨rest, rfl, hleft, hsame, -⟩ := read_holds hheld hread
      have hpos : 0 < piece.length := List.length_pos_iff.mpr (by simpa using hempty)
      have hfewer : rest.length < reads := by
        rw [List.length_append] at hreads
        omega
      have hjoined : lineFeed ∉ begun ++ piece := by
        rw [List.mem_append, not_or]
        exact ⟨hbegun, splitLine?_eq_none hsplit⟩
      obtain ⟨after, hafter, hreads⟩ := ih hjoined hahead hleft hfewer
      refine ⟨after, ?_, hreads.line_or_end, hreads.left, ?_⟩
      · rw [← List.append_assoc]
        exact hafter
      · rw [hreads.drained_eq]
        exact drained_mapHost hsame []

/-- What a session reads as a line is the first line of what it has left to read, and nothing only
at the end. -/
theorem readLine_reads (hleft : s.Left i stream) :
    ∃ rest, stream = s.readLine.1 ++ rest ∧ Reads i s s.readLine.1 rest s.readLine.2 := by
  obtain ⟨held, rfl, hheld⟩ := hleft
  rw [readLine]
  rcases hsplit : splitLine? s.ahead with _ | ⟨line, ahead⟩
  · have hnone := splitLine?_eq_none hsplit
    have hreads := Nat.lt_succ_of_le (i.pending hheld)
    obtain ⟨rest, hrest, hread⟩ :=
      readOn_reads (s := { s with ahead := [] }) hnone rfl hheld hreads
    exact ⟨rest, hrest, hread.line_or_end, hread.left, hread.drained_eq⟩
  · obtain ⟨hahead, body, hline, hbody⟩ := splitLine?_eq_some hsplit
    refine ⟨ahead ++ held, ?_, Or.inl ⟨body, lineFeed, hline, hbody, Or.inl rfl⟩, ?_, rfl⟩
    · rw [hahead, List.append_assoc]
    · exact ⟨held, rfl, hheld⟩

/-- The next line that is read is the next one of the stream. -/
theorem readLine_line (hline : IsLine line rest) (hleft : s.Left i (line ++ rest)) :
    ∃ t, s.readLine = (line, t) ∧ t.Left i rest ∧ t.drained i = s.drained i := by
  obtain ⟨rest', hcut, hread⟩ := readLine_reads hleft
  rcases hread.line_or_end with hline' | ⟨hnil, hend⟩
  · have hlines := linesOf_append hline
    rw [hcut, linesOf_append hline'] at hlines
    have hfirst : s.readLine.1 = line := (List.cons.inj hlines).1
    rw [hfirst] at hcut
    obtain rfl : rest = rest' := List.append_cancel_left hcut
    exact ⟨s.readLine.2, Prod.ext hfirst rfl, hread.left, hread.drained_eq⟩
  · rw [hnil, hend] at hcut
    exact absurd (List.append_eq_nil_iff.mp hcut).1 hline.ne_nil

/-- At the end of the stream an empty line is read. -/
theorem readLine_end (hleft : s.Left i []) :
    ∃ t, s.readLine = ([], t) ∧ t.Left i [] ∧ t.drained i = s.drained i := by
  obtain ⟨rest, hcut, hread⟩ := readLine_reads hleft
  obtain ⟨hline, rfl⟩ := List.append_eq_nil_iff.mp hcut.symm
  exact ⟨s.readLine.2, Prod.ext hline rfl, hread.left, hread.drained_eq⟩

/-! ## What does not read -/

/-- Something that a session does leaves its input alone. -/
structure LeavesInput (i : Intake σ) {ε : Type} (f : Session σ α η → ε × Session σ α η) :
    Prop where
  left {s : Session σ α η} {stream : Bytes} : s.Left i stream → (f s).2.Left i stream
  drained {s : Session σ α η} {stream : Bytes} : s.Left i stream →
    f (s.drained i) = ((f s).1, (f s).2.drained i)

variable {ε δ κ : Type}

theorem LeavesInput.pure (o : ε) : LeavesInput i fun s : Session σ α η => (o, s) :=
  ⟨id, fun _ => rfl⟩

theorem LeavesInput.bind {f : Session σ α η → ε × Session σ α η}
    {g : ε → Session σ α η → δ × Session σ α η} (hf : LeavesInput i f)
    (hg : ∀ o, LeavesInput i (g o)) : LeavesInput i fun s => g (f s).1 (f s).2 := by
  constructor
  · intro s stream hleft
    exact (hg _).left (hf.left hleft)
  · intro s stream hleft
    simp only [hf.drained hleft]
    exact (hg _).drained (hf.left hleft)

/-- What is done may depend on whatever is the same without anything to read. -/
theorem LeavesInput.look {f : Session σ α η → ε × Session σ α η} (look : Session σ α η → κ)
    (hlook : ∀ s, look (s.drained i) = look s)
    (hf : ∀ k, ∃ g, LeavesInput i g ∧ ∀ s, look s = k → f s = g s) : LeavesInput i f := by
  constructor
  · intro s stream hleft
    obtain ⟨g, hg, hfg⟩ := hf (look s)
    rw [hfg s rfl]
    exact hg.left hleft
  · intro s stream hleft
    obtain ⟨g, hg, hfg⟩ := hf (look s)
    rw [hfg s rfl, hfg _ (hlook s)]
    exact hg.drained hleft

theorem leavesInput_print (hapart : i.Apart) (o : ε) (text : String) :
    LeavesInput i fun s : Session σ α η => (o, s.print text) := by
  constructor
  · rintro s _ ⟨held, rfl, hheld⟩
    exact ⟨held, rfl, hapart.print text hheld⟩
  · intro s stream _
    simp only [Session.drained, print, mapHost, hapart.drained_print]

theorem leavesInput_complain (hapart : i.Apart) (o : ε) (message : String) :
    LeavesInput i fun s : Session σ α η => (o, s.complain message) := by
  constructor
  · rintro s _ ⟨held, rfl, hheld⟩
    exact ⟨held, rfl, hapart.report _ hheld⟩
  · intro s stream _
    simp only [Session.drained, complain, mapHost, hapart.drained_report]

/-! ## The standard builtins -/

section Builtins

variable (hapart : i.Apart) (words : List String) (last : Status) (asked : Bool)
include hapart

end Builtins

omit [Console σ] in
theorem exists_entry_of_route {r : Registry (Session σ α η)} {line : String}
    {h : Handler (Session σ α η)} {words : List String} (hroute : r.route line = .builtin h words) :
    ∃ name, (name, h) ∈ r.entries := by
  unfold Registry.route at hroute
  split at hroute
  · cases hroute
  · cases hroute
  · next p _ =>
    unfold Registry.routePipeline at hroute
    split at hroute
    · cases hroute
    · next h' hlookup =>
      obtain ⟨before, after, hentries, -⟩ := Registry.lookup_eq_some_iff.mp hlookup
      split at hroute
      · cases hroute
        exact ⟨p.first.program, by simp [hentries]⟩
      · cases hroute

variable [Host σ α η]

end Session

end ShellPipeline
