import ShellPipeline.Proofs.Machine.Typing
import ShellPipeline.Proofs.Session.Explained

/-!
# Conversations with prompts

A conversation on a terminal is the same as one that is not, but for what it shows in addition: a
prompt before each line that it reads, and at the end of the input a prompt that no line follows and
a line feed. Whoever carries out the lines cannot tell one from the other, as long as they do not
look at the input or at what standard output has got so far.
-/

namespace ShellPipeline

section

variable {σ α η ν : Type} [Console σ]

/-- What can be seen of a session by those who carry out its lines. That includes its history and
its standard error, but neither what it has left to read nor what it has written to standard
output. -/
structure Intake.View (i : Intake σ) (see : Session σ α η → ν) (reported : σ → Bytes) : Prop where
  drained (s : Session σ α η) : see (s.drained i) = see s
  print (s : Session σ α η) (text : String) : see (s.print text) = see s
  report {s t : Session σ α η} (text : String) : see s = see t →
    see (s.mapHost (Console.report text)) = see (t.mapHost (Console.report text))
  remember {s t : Session σ α η} (line : String) : see s = see t →
    see (s.remember line) = see (t.remember line)
  history {s t : Session σ α η} : see s = see t → s.history = t.history
  reported {s t : Session σ α η} : see s = see t → reported s.shell.host = reported t.shell.host

end

namespace Session

variable {σ α η ν ε : Type} [Console σ] {i : Intake σ} {see : Session σ α η → ν}
  {written reported : σ → Bytes} {s t : Session σ α η}

/-! ## What does not look at input and output -/

/-- Something is done with a session that depends only on what is seen of it. It leaves the input
alone, and to standard output it adds a text. -/
structure Oblivious (i : Intake σ) (see : Session σ α η → ν) (written : σ → Bytes)
    (f : Session σ α η → ε × Session σ α η) : Prop where
  left {s : Session σ α η} {stream : Bytes} : s.Left i stream → (f s).2.Left i stream
  answers {s t : Session σ α η} : see s = see t → (f s).1 = (f t).1
  leads {s t : Session σ α η} : see s = see t → see (f s).2 = see (f t).2
  adds {s t : Session σ α η} : see s = see t → ∃ text,
    written (f s).2.shell.host = written s.shell.host ++ text ∧
      written (f t).2.shell.host = written t.shell.host ++ text

theorem Oblivious.pure (o : ε) : Oblivious i see written fun s : Session σ α η => (o, s) where
  left := id
  answers _ := rfl
  leads := id
  adds _ := ⟨[], (List.append_nil _).symm, (List.append_nil _).symm⟩

section

variable (hapart : i.Apart) (hshows : i.Shows written reported) (hview : i.View see reported)
include hapart hshows hview

theorem oblivious_print (o : ε) (text : String) :
    Oblivious i see written fun s : Session σ α η => (o, s.print text) where
  left := (leavesInput_print hapart o text).left
  answers _ := rfl
  leads hsame := by rw [hview.print, hview.print, hsame]
  adds _ := ⟨utf8 text, hshows.written_print text _, hshows.written_print text _⟩

theorem oblivious_complain (o : ε) (message : String) :
    Oblivious i see written fun s : Session σ α η => (o, s.complain message) where
  left := (leavesInput_complain hapart o message).left
  answers _ := rfl
  leads := hview.report _
  adds _ := by
    have hkept : ∀ s : Session σ α η,
        written (s.complain message).shell.host = written s.shell.host ++ [] := by
      intro s
      rw [List.append_nil]
      exact hshows.written_report _ _
    exact ⟨[], hkept _, hkept _⟩

theorem oblivious_explain (line : String) (last : Status) :
    Oblivious i see written
      (explain line last : Session σ α η → Outcome × Session σ α η) := by
  unfold explain
  rcases parse line with e | _ | p
  · exact oblivious_complain hapart hshows hview _ _
  · exact .pure (⟨last, false⟩ : Outcome)
  · exact oblivious_print hapart hshows hview _ _

/-- A line is carried out without regard to input and output if the builtin or the programs that
it gets to have none. -/
theorem oblivious_dispatch [Host σ α η] {r : Registry (Session σ α η)} {line : String}
    (last : Status)
    (hbuiltin : ∀ h words, r.route line = .builtin h words →
      Oblivious i see written (h words last false))
    (hprograms : ∀ p, r.route line = .external p →
      Oblivious i see written fun s : Session σ α η => s.runPipeline p) :
    Oblivious i see written (dispatch r line last) := by
  unfold dispatch
  rcases hroute : r.route line with e | _ | ⟨h, words⟩ | name | p
  · exact oblivious_complain hapart hshows hview _ _
  · exact .pure _
  · exact hbuiltin h words hroute
  · exact oblivious_complain hapart hshows hview _ _
  · exact hprograms p hroute

end

/-! ## One line with a prompt and without -/

/-- What was written to standard output while a line was carried out. -/
def Round.wrote (written : σ → Bytes) (r : Round (Session σ α η)) : Bytes :=
  (written r.after.shell.host).drop (written r.before.shell.host).length

/-- Two rounds between which no difference is seen. -/
structure Round.Alike (see : Session σ α η → ν) (written : σ → Bytes)
    (r r' : Round (Session σ α η)) : Prop where
  line : r.line = r'.line
  last : r.last = r'.last
  before : see r.before = see r'.before
  outcome : r.outcome = r'.outcome
  after : see r.after = see r'.after
  wrote : r.wrote written = r'.wrote written
  adds : written r.after.shell.host = written r.before.shell.host ++ r.wrote written
  adds' : written r'.after.shell.host = written r'.before.shell.host ++ r'.wrote written

omit [Console σ] in
theorem shell_remember (s : Session σ α η) (line : String) : (s.remember line).shell = s.shell := by
  unfold remember
  split <;> rfl

variable {perform : String → Status → Session σ α η → Outcome × Session σ α η} {line : String}
  {last : Status}

/-- A line goes the same way in two sessions between which it can see no difference. -/
theorem alike_round (hview : i.View see reported)
    (hoblivious : Oblivious i see written (perform line last)) (hsame : see s = see t) :
    (round perform last s line).Alike see written (round perform last t line) := by
  have hbefore := hview.remember line hsame
  obtain ⟨text, hs, ht⟩ := hoblivious.adds hbefore
  have hwrote : (round perform last s line).wrote written = text := by
    simp only [Round.wrote, round, hs, List.drop_left]
  have hwrote' : (round perform last t line).wrote written = text := by
    simp only [Round.wrote, round, ht, List.drop_left]
  refine ⟨rfl, rfl, hbefore, hoblivious.answers hbefore, hoblivious.leads hbefore,
    hwrote.trans hwrote'.symm, ?_, ?_⟩
  · rw [hwrote]
    exact hs
  · rw [hwrote']
    exact ht

def promptBytes (prompt : Option String) : Bytes :=
  prompt.elim [] utf8

theorem left_showPrompt (hapart : i.Apart) {stream : Bytes} (hleft : s.Left i stream)
    (prompt : Option String) : (s.showPrompt prompt).Left i stream := by
  cases prompt with
  | none => exact hleft
  | some text => exact (leavesInput_print hapart () text).left hleft

theorem see_showPrompt (hview : i.View see reported) (s : Session σ α η)
    (prompt : Option String) : see (s.showPrompt prompt) = see s := by
  cases prompt with
  | none => rfl
  | some text => exact hview.print s text

theorem written_showPrompt (hshows : i.Shows written reported) (s : Session σ α η)
    (prompt : Option String) : written (s.showPrompt prompt).shell.host
      = written s.shell.host ++ promptBytes prompt := by
  cases prompt with
  | none => exact (List.append_nil _).symm
  | some text => exact hshows.written_print text s.shell.host

/-- Reading a line shows the prompt and nothing else. -/
theorem shown_of_drained (hshows : i.Shows written reported) (hview : i.View see reported)
    {prompt : Option String} (hsame : t.drained i = (s.showPrompt prompt).drained i) :
    see t = see s ∧
      written t.shell.host = written s.shell.host ++ promptBytes prompt := by
  constructor
  · rw [← hview.drained t, hsame, hview.drained, see_showPrompt hview]
  · have hhost : i.drained t.shell.host = i.drained (s.showPrompt prompt).shell.host :=
      congrArg (·.shell.host) hsame
    rw [← hshows.written_drained, hhost, hshows.written_drained, written_showPrompt hshows]

/-! ## Whole conversations -/

def asksToExit (rs : List (Round (Session σ α η))) : Bool :=
  rs.any (·.outcome.exit)

/-- Two conversations over the same lines, of which the first has a prompt and the second has none.
-/
structure AddsPrompts (i : Intake σ) (see : Session σ α η → ν) (written : σ → Bytes)
    (perform : String → Status → Session σ α η → Outcome × Session σ α η) (prompt : String)
    (last : Status) (pieces : List Bytes) (s t : Session σ α η)
    (rs rs' : List (Round (Session σ α η))) (result result' : Status × Session σ α η) :
    Prop where
  converses : Converses perform (some prompt) last s rs result
  converses' : Converses perform none last t rs' result'
  alike : List.Forall₂ (Round.Alike see written) rs rs'
  status : result.1 = result'.1
  seen : see result.2 = see result'.2
  lines : rs.map Round.line = (pieces.map lineText).take rs.length
  /-- The lines that were not carried out have not been read. -/
  unread : result.2.Left i (pieces.drop rs.length).flatten
  unread' : result'.2.Left i (pieces.drop rs.length).flatten
  /-- Nothing but a request to exit ends a conversation before the end of its input. -/
  all : asksToExit rs = false → rs.length = pieces.length
  written_eq' : written result'.2.shell.host =
    written t.shell.host ++ rs'.flatMap (Round.wrote written)
  /-- To what is written without a prompt, one is added before each line, and another one with a
  line feed at the end of the input. -/
  written_eq : written result.2.shell.host =
    written s.shell.host ++ rs'.flatMap (fun r => utf8 prompt ++ r.wrote written) ++
      if asksToExit rs then [] else utf8 prompt ++ utf8 "\n"

variable {prompt : String} {stream bytes rest : Bytes} {pieces : List Bytes} {u u' : Session σ α η}

omit [Console σ] in
/-- In both sessions a line writes the same after what was written before. -/
theorem written_round (halike : (round perform last u line).Alike see written
    (round perform last u' line)) :
    written (round perform last u line).after.shell.host = written u.shell.host ++
      (round perform last u' line).wrote written ∧
    written (round perform last u' line).after.shell.host = written u'.shell.host ++
      (round perform last u' line).wrote written := by
  have hbefore : (round perform last u line).before.shell = u.shell := shell_remember u line
  have hbefore' : (round perform last u' line).before.shell = u'.shell := shell_remember u' line
  constructor
  · rw [halike.adds, hbefore, halike.wrote]
  · rw [← hbefore', ← halike.adds']

section

variable (hapart : i.Apart) (hshows : i.Shows written reported) (hview : i.View see reported)
include hapart hshows hview

/-- At the end of the input a prompt is shown that no line follows. -/
theorem converseFor_prompts_end (prompt : String) (last : Status) {fuel fuel' : Nat}
    (hs : s.Left i []) (ht : t.Left i []) (hsame : see s = see t) :
    AddsPrompts i see written perform prompt last [] s t [] []
      (converseFor perform (some prompt) last s (fuel + 1))
      (converseFor perform none last t (fuel' + 1)) := by
  obtain ⟨u, hread, hu, hdrained⟩ := readLine_end (left_showPrompt hapart hs (some prompt))
  obtain ⟨u', hread', hu', hdrained'⟩ := readLine_end (left_showPrompt hapart ht none)
  obtain ⟨hsee, hwritten⟩ := shown_of_drained hshows hview hdrained
  obtain ⟨hsee', hwritten'⟩ := shown_of_drained hshows hview hdrained'
  rw [converseFor_end hread, converseFor_end hread']
  refine ⟨.ended hread, .ended hread', .nil, rfl, ?_, rfl, ?_, hu', fun _ => rfl, hwritten', ?_⟩
  · rw [see_showPrompt hview, see_showPrompt hview, hsee, hsee', hsame]
  · exact left_showPrompt hapart hu _
  · rw [written_showPrompt hshows, hwritten, List.append_assoc, List.flatMap_nil, List.append_nil,
      asksToExit, List.any_nil, if_neg Bool.false_ne_true]
    simp only [promptBytes, Option.map_some, Option.elim_some]

end

/-- The next line asks to exit. -/
theorem addsPrompts_exits (hne : bytes ≠ [])
    (hread : (s.showPrompt (some prompt)).readLine = (bytes, u))
    (hread' : (t.showPrompt none).readLine = (bytes, u'))
    (hwritten : written u.shell.host = written s.shell.host ++ utf8 prompt)
    (hwritten' : written u'.shell.host = written t.shell.host)
    (halike : (round perform last u (lineText bytes)).Alike see written
      (round perform last u' (lineText bytes)))
    (hexit : (round perform last u (lineText bytes)).outcome.exit = true)
    (hleft : (round perform last u (lineText bytes)).after.Left i pieces.flatten)
    (hleft' : (round perform last u' (lineText bytes)).after.Left i pieces.flatten) :
    AddsPrompts i see written perform prompt last (bytes :: pieces) s t
      [round perform last u (lineText bytes)] [round perform last u' (lineText bytes)]
      ((round perform last u (lineText bytes)).outcome.status,
        (round perform last u (lineText bytes)).after)
      ((round perform last u' (lineText bytes)).outcome.status,
        (round perform last u' (lineText bytes)).after) := by
  obtain ⟨hshown, hshown'⟩ := written_round halike
  have hstops : asksToExit [round perform last u (lineText bytes)] = true := by
    simp [asksToExit, hexit]
  refine ⟨.exits hread hne rfl hexit, .exits hread' hne rfl (halike.outcome ▸ hexit),
    .cons halike .nil, congrArg Outcome.status halike.outcome, halike.after, rfl, hleft, hleft',
    ?_, ?_, ?_⟩
  · rw [hstops]
    exact nofun
  · rw [hshown', hwritten', List.flatMap_singleton]
  · rw [hshown, hwritten, hstops, List.flatMap_singleton, List.append_assoc]
    simp

/-- The next line is followed by others. -/
theorem addsPrompts_goesOn {rs rs' : List (Round (Session σ α η))}
    {result result' : Status × Session σ α η} (hne : bytes ≠ [])
    (hread : (s.showPrompt (some prompt)).readLine = (bytes, u))
    (hread' : (t.showPrompt none).readLine = (bytes, u'))
    (hwritten : written u.shell.host = written s.shell.host ++ utf8 prompt)
    (hwritten' : written u'.shell.host = written t.shell.host)
    (halike : (round perform last u (lineText bytes)).Alike see written
      (round perform last u' (lineText bytes)))
    (hexit : (round perform last u (lineText bytes)).outcome.exit = false)
    (h : AddsPrompts i see written perform prompt
      (round perform last u (lineText bytes)).outcome.status pieces
      (round perform last u (lineText bytes)).after (round perform last u' (lineText bytes)).after
      rs rs' result result') :
    AddsPrompts i see written perform prompt last (bytes :: pieces) s t
      (round perform last u (lineText bytes) :: rs) (round perform last u' (lineText bytes) :: rs')
      result result' := by
  obtain ⟨hshown, hshown'⟩ := written_round halike
  have hstops : asksToExit (round perform last u (lineText bytes) :: rs) = asksToExit rs := by
    simp [asksToExit, hexit]
  have hconverses' := h.converses'
  rw [halike.outcome] at hconverses'
  refine ⟨.goesOn hread hne rfl hexit h.converses,
    .goesOn hread' hne rfl (halike.outcome ▸ hexit) hconverses', .cons halike h.alike, h.status,
    h.seen, ?_, h.unread, h.unread', ?_, ?_, ?_⟩
  · rw [List.map_cons, List.map_cons, List.length_cons, List.take_succ_cons, h.lines]
    rfl
  · rw [hstops]
    intro hgoes
    rw [List.length_cons, List.length_cons, h.all hgoes]
  · rw [h.written_eq', hshown', hwritten', List.flatMap_cons, List.append_assoc]
  · rw [h.written_eq, hshown, hwritten, hstops, List.flatMap_cons]
    simp only [List.append_assoc]

/-- The conversation with a prompt and the one without go through the same lines. -/
theorem converseFor_prompts (hapart : i.Apart) (hshows : i.Shows written reported)
    (hview : i.View see reported) (prompt : String) (last : Status) (hcut : Cut stream pieces)
    (hs : s.Left i stream) (ht : t.Left i stream) (hsame : see s = see t)
    (hoblivious : ∀ line ∈ pieces.map lineText, ∀ last,
      Oblivious i see written (perform line last))
    {fuel fuel' : Nat} (hfuel : pieces.length < fuel) (hfuel' : pieces.length < fuel') :
    ∃ rs rs', AddsPrompts i see written perform prompt last pieces s t rs rs'
      (converseFor perform (some prompt) last s fuel) (converseFor perform none last t fuel') := by
  -- along the cut: both sessions have the same pieces left and look the same whenever they read
  induction hcut generalizing last s t fuel fuel' with
  | nil =>
      obtain ⟨fuel, rfl⟩ := Nat.exists_eq_succ_of_ne_zero (Nat.ne_of_gt hfuel)
      obtain ⟨fuel', rfl⟩ := Nat.exists_eq_succ_of_ne_zero (Nat.ne_of_gt hfuel')
      exact ⟨[], [], converseFor_prompts_end hapart hshows hview prompt last hs ht hsame⟩
  | @cons bytes rest pieces hline hpieces ih =>
      obtain ⟨fuel, rfl⟩ := Nat.exists_eq_succ_of_ne_zero (Nat.ne_zero_of_lt hfuel)
      obtain ⟨fuel', rfl⟩ := Nat.exists_eq_succ_of_ne_zero (Nat.ne_zero_of_lt hfuel')
      rw [List.map_cons, List.forall_mem_cons] at hoblivious
      have hfirst := hoblivious.1 last
      obtain ⟨u, hread, hu, hdrained⟩ :=
        readLine_line hline (left_showPrompt hapart hs (some prompt))
      obtain ⟨u', hread', hu', hdrained'⟩ := readLine_line hline (left_showPrompt hapart ht none)
      obtain ⟨hsee, hwritten⟩ := shown_of_drained hshows hview hdrained
      obtain ⟨hsee', hwritten'⟩ := shown_of_drained hshows hview hdrained'
      rw [promptBytes, Option.elim_none, List.append_nil] at hwritten'
      have halike := alike_round hview hfirst (hsee.trans (hsame.trans hsee'.symm))
      have hafter := hfirst.left (left_remember hu (lineText bytes))
      have hafter' := hfirst.left (left_remember hu' (lineText bytes))
      rw [converseFor_cons hline.ne_nil hread, converseFor_cons hline.ne_nil hread',
        ← halike.outcome]
      cases hexit : (round perform last u (lineText bytes)).outcome.exit
      · obtain ⟨rs, rs', h⟩ := ih (round perform last u (lineText bytes)).outcome.status hafter
          hafter' halike.after hoblivious.2 (Nat.lt_of_succ_lt_succ hfuel)
          (Nat.lt_of_succ_lt_succ hfuel')
        exact ⟨_, _, addsPrompts_goesOn hline.ne_nil hread hread' hwritten hwritten' halike hexit h⟩
      · rw [← hpieces.flatten_eq] at hafter hafter'
        have hend := addsPrompts_exits hline.ne_nil hread hread' hwritten hwritten' halike hexit
          hafter hafter'
        rw [← halike.outcome] at hend
        exact ⟨_, _, hend⟩

/-- Whether a conversation takes place on a terminal makes no difference to what is carried out. The
lines, what each of them is given and what becomes of it are the same, and so are the history, the
final status and standard error; on standard output the terminal only has its prompts in addition.
Explaining lines is always done without regard to the terminal. -/
theorem converse_adds_prompts (hapart : i.Apart) (hshows : i.Shows written reported)
    (hview : i.View see reported)
    (perform : String → Status → Session σ α η → Outcome × Session σ α η) (prompt : String)
    (s t : Session σ α η) (stream : Bytes) (hs : s.Left i stream) (ht : t.Left i stream)
    (hterminal : Console.isTerminal s.shell.host = true)
    (hplain : Console.isTerminal t.shell.host = false) (hsame : see s = see t)
    (hoblivious : ∀ line ∈ lineTexts stream, ∀ last,
      Oblivious i see written (perform line last)) :
    (∃ rs rs', AddsPrompts i see written perform prompt 0 (linesOf stream) s t rs rs'
        (s.converse perform prompt) (t.converse perform prompt) ∧
      List.Forall₂ (fun r r' => r.before.history = r'.before.history ∧
        r.after.history = r'.after.history) rs rs' ∧
      (s.converse perform prompt).2.history = (t.converse perform prompt).2.history ∧
      reported (s.converse perform prompt).2.shell.host
        = reported (t.converse perform prompt).2.shell.host) ∧
    ∀ line last, Oblivious i see written
      (explain line last : Session σ α η → Outcome × Session σ α η) := by
  have hconverse : s.converse perform prompt = converseFor perform (some prompt) 0 s
      (s.ahead.length + Console.pending s.shell.host + 1) := by
    simp [converse, hterminal]
  have hconverse' : t.converse perform prompt = converseFor perform none 0 t
      (t.ahead.length + Console.pending t.shell.host + 1) := by
    simp [converse, hplain]
  obtain ⟨rs, rs', hadds⟩ := converseFor_prompts hapart hshows hview prompt 0 (cut_linesOf stream)
    hs ht hsame hoblivious hs.length_linesOf_lt ht.length_linesOf_lt
  rw [← hconverse, ← hconverse'] at hadds
  refine ⟨⟨rs, rs', hadds, ?_, hview.history hadds.seen, hview.reported hadds.seen⟩,
    oblivious_explain hapart hshows hview⟩
  exact hadds.alike.imp fun _ _ halike =>
    ⟨hview.history halike.before, hview.history halike.after⟩

end Session

namespace Machine

/-- What is seen of a shell on a machine: all but its standard input, its standard output, the pipes
and its descriptors, which tell where it reads. -/
def outlook (s : Session Machine Channel Nat) :
    Machine × List (Event Channel Nat) × History × List Call :=
  ({ s.shell.host with
      world := { s.shell.host.world with
        input := .terminal, typed := [], pipes := #[], output := {} } },
    s.shell.events, s.history, s.calls)

theorem shellIntake_view : shellIntake.View outlook (·.world.errors.toBytes) where
  drained _ := rfl
  print _ _ := rfl
  report text hsame := congrArg (fun o => (Console.report text o.1, o.2)) hsame
  remember {s t} line hsame := by
    have hhistory : s.history = t.history := congrArg (·.2.2.1) hsame
    unfold Session.remember
    split
    · exact hsame
    · rw [hhistory]
      exact congrArg (fun o => (o.1, o.2.1, t.history.push line, o.2.2.2)) hsame
  history hsame := congrArg (·.2.2.1) hsame
  reported hsame := congrArg (·.1.world.errors.toBytes) hsame

theorem shellIntake_shows :
    shellIntake.Shows (·.world.output.toBytes) (·.world.errors.toBytes) where
  written_print text m := Queue.toBytes_add m.world.output (utf8 text)
  reported_print _ _ := rfl
  written_report _ _ := rfl
  reported_report text m := Queue.toBytes_add m.world.errors (utf8 text)
  written_drained _ := rfl
  reported_drained _ := rfl

def typedLines : List Bytes :=
  [utf8 "status\n", utf8 " \n"]

theorem oblivious_typedLines : ∀ line ∈ lineTexts typedLines.flatten, ∀ last,
    Session.Oblivious shellIntake outlook (·.world.output.toBytes)
      (Session.dispatch Registry.standard line last :
        Session Machine Channel Nat → Outcome × Session Machine Channel Nat) := by
  have hstatus : (Registry.standard : Registry (Session Machine Channel Nat)).route "status"
      = .builtin Builtin.status ["status"] := rfl
  have hblank : (Registry.standard : Registry (Session Machine Channel Nat)).route " " = .blank :=
    rfl
  have htexts : lineTexts typedLines.flatten = ["status", " "] := by
    rw [lineTexts_ascii rfl]
    decide
  intro line hline last
  rw [htexts] at hline
  simp only [List.mem_cons, List.not_mem_nil, or_false] at hline
  apply Session.oblivious_dispatch shellIntake_apart shellIntake_shows shellIntake_view
  · rintro h words hroute
    rcases hline with rfl | rfl
    · cases hstatus.symm.trans hroute
      exact Session.oblivious_print shellIntake_apart shellIntake_shows shellIntake_view _ _
    · cases hblank.symm.trans hroute
  · rintro p hroute
    rcases hline with rfl | rfl
    · cases hstatus.symm.trans hroute
    · cases hblank.symm.trans hroute

/-- On the terminal there are three prompts for the two lines, the last one with a line feed. -/
theorem converse_adds_prompts_typed :
    shellIntake.Apart ∧ shellIntake.Shows (·.world.output.toBytes) (·.world.errors.toBytes) ∧
      shellIntake.View outlook (·.world.errors.toBytes) ∧
      (shellTyped typedLines).Left shellIntake typedLines.flatten ∧
      (shellReading typedLines.flatten).Left shellIntake typedLines.flatten ∧
      Console.isTerminal (shellTyped typedLines).shell.host = true ∧
      Console.isTerminal (shellReading typedLines.flatten).shell.host = false ∧
      outlook (shellTyped typedLines) = outlook (shellReading typedLines.flatten) ∧
      (∃ rs rs', Session.AddsPrompts shellIntake outlook (·.world.output.toBytes)
        (Session.dispatch Registry.standard) "$ " 0 (linesOf typedLines.flatten)
        (shellTyped typedLines) (shellReading typedLines.flatten) rs rs'
        ((shellTyped typedLines).converse (Session.dispatch Registry.standard) "$ ")
        ((shellReading typedLines.flatten).converse (Session.dispatch Registry.standard) "$ ")) ∧
      ((shellTyped typedLines).converse (Session.dispatch Registry.standard) "$ "
        ).2.shell.host.world.output.toBytes = utf8 "$ 0\n$ $ \n" ∧
      ((shellReading typedLines.flatten).converse (Session.dispatch Registry.standard) "$ "
        ).2.shell.host.world.output.toBytes = utf8 "0\n" := by
  have hs : (shellTyped typedLines).Left shellIntake typedLines.flatten :=
    left_shellTyped (by decide)
  have ht : (shellReading typedLines.flatten).Left shellIntake typedLines.flatten := by
    obtain ⟨held, hheld, hfeeds⟩ := left_shellReading typedLines.flatten
    exact ⟨held, hheld, Or.inl hfeeds⟩
  obtain ⟨⟨rs, rs', hadds, -⟩, -⟩ := Session.converse_adds_prompts shellIntake_apart
    shellIntake_shows shellIntake_view (Session.dispatch Registry.standard) "$ "
    (shellTyped typedLines) (shellReading typedLines.flatten) typedLines.flatten hs ht rfl rfl rfl
    oblivious_typedLines
  refine ⟨shellIntake_apart, shellIntake_shows, shellIntake_view, hs, ht, rfl, rfl, rfl,
    ⟨rs, rs', hadds⟩, ?_, ?_⟩
  · decide +kernel
  · decide +kernel

end Machine

end ShellPipeline
