import Mathlib.Data.List.Forall2
import ShellPipeline.CommandLine.Start
import ShellPipeline.Proofs.Session.Fold
import ShellPipeline.Proofs.Text.Json

/-!
# Sessions that only explain

A session that explains its lines goes on to the end of its input, whatever the lines say. All that
its host gets to do is to show texts, one for each line that is not blank: a pipeline on standard
output, or on standard error what is wrong with the line, in the words in which it would be
refused if it were to be carried out.
-/

namespace ShellPipeline

def pipeline? (line : String) : Option Pipeline :=
  match parse line with
  | .ok (some p) => some p
  | _ => none

/-- What a line comes to on standard output when it is explained. -/
def explanation? (line : String) : Option String :=
  match parse line with
  | .ok (some p) => some (p.explain ++ "\n")
  | _ => none

def ParseError.report (e : ParseError) : String :=
  "pipesh: " ++ ("input parse error: " ++ e.message) ++ "\n"

def diagnostic? (line : String) : Option String :=
  match parse line with
  | .error e => some e.report
  | .ok _ => none

def toldStatus (line : String) : Status :=
  match parse line with
  | .error _ => failureStatus
  | .ok _ => 0

def toldStatusAfter (last : Status) (lines : List String) : Status :=
  ((lines.filter (Entered ·)).getLast?.map toldStatus).getD last

theorem toldStatusAfter_cons (last : Status) (line : String) (lines : List String) :
    toldStatusAfter last (line :: lines)
      = toldStatusAfter (if Entered line then toldStatus line else last) lines := by
  unfold toldStatusAfter
  by_cases hline : Entered line
  · rw [List.filter_cons_of_pos (by simpa using hline), Session.getD_getLast?_cons, if_pos hline]
  · rw [List.filter_cons_of_neg (by simpa using hline), if_neg hline]

/-- The explanation of a pipeline is its JSON text, indented. -/
theorem reads_explain (p : Pipeline) :
    Json.Reads .indented 0 .value p.toJson p.explain.toList [] := by
  simpa [Pipeline.explain, Json.pretty] using Json.reads_layout 0 [] p.toJson

/-- The explanations of lines are those of the pipelines that are read from them. -/
theorem filterMap_explanation? (lines : List String) :
    lines.filterMap explanation? =
      ((lines.filterMap pipeline?).map Pipeline.explain).map (· ++ "\n") := by
  rw [List.map_map, List.map_filterMap]
  refine List.filterMap_congr fun line _ => ?_
  unfold explanation? pipeline?
  rcases parse line with e | _ | p <;> rfl

section

variable {σ : Type} [Console σ]

/-- What a host gets to do when a line is explained. -/
def tell (host : σ) (line : String) : σ :=
  match parse line with
  | .error e => Console.report e.report host
  | .ok none => host
  | .ok (some p) => Console.print (p.explain ++ "\n") host

/-- What has been written to the standard streams of a console. -/
structure Intake.Shows (i : Intake σ) (written reported : σ → Bytes) : Prop where
  written_print (text : String) (host : σ) :
    written (Console.print text host) = written host ++ utf8 text
  reported_print (text : String) (host : σ) :
    reported (Console.print text host) = reported host
  written_report (text : String) (host : σ) :
    written (Console.report text host) = written host
  reported_report (text : String) (host : σ) :
    reported (Console.report text host) = reported host ++ utf8 text
  written_drained (host : σ) : written (i.drained host) = written host
  reported_drained (host : σ) : reported (i.drained host) = reported host

variable {i : Intake σ} {written reported : σ → Bytes}

theorem written_tell (hshows : i.Shows written reported) (host : σ) (line : String) :
    written (tell host line) = written host ++ (explanation? line).toList.flatMap utf8 := by
  unfold tell explanation?
  rcases parse line with e | _ | p
  · simp [hshows.written_report]
  · simp
  · simp [hshows.written_print]

theorem reported_tell (hshows : i.Shows written reported) (host : σ) (line : String) :
    reported (tell host line) = reported host ++ (diagnostic? line).toList.flatMap utf8 := by
  unfold tell diagnostic?
  rcases parse line with e | _ | p
  · simp [hshows.reported_report]
  · simp
  · simp [hshows.reported_print]

/-- What every line adds to a stream adds up, in the order of the lines. -/
theorem foldl_tell {shown : σ → Bytes} {text? : String → Option String}
    (htell : ∀ host line, shown (tell host line) = shown host ++ (text? line).toList.flatMap utf8)
    (host : σ) (lines : List String) :
    shown (lines.foldl tell host) = shown host ++ (lines.filterMap text?).flatMap utf8 := by
  induction lines generalizing host with
  | nil => simp
  | cons line lines ih =>
      rw [List.foldl_cons, ih, htell, List.append_assoc, List.filterMap_cons]
      cases text? line <;> simp

theorem foldl_tell_eq {τ : Type} {look : σ → τ}
    (hprint : ∀ text host, look (Console.print text host) = look host)
    (hreport : ∀ text host, look (Console.report text host) = look host)
    (host : σ) (lines : List String) : look (lines.foldl tell host) = look host := by
  induction lines generalizing host with
  | nil => rfl
  | cons line lines ih =>
      rw [List.foldl_cons, ih]
      unfold tell
      split
      · exact hreport _ _
      · rfl
      · exact hprint _ _

end

namespace Session

variable {σ α η : Type} [Console σ] {i : Intake σ}

/-- To explain a line does nothing to a session but to let it say something. -/
theorem explain_eq (line : String) (last : Status) (s : Session σ α η) : explain line last s =
    (⟨if Entered line then toldStatus line else last, false⟩, s.mapHost (tell · line)) := by
  unfold explain tell toldStatus
  rcases hparse : parse line with e | _ | p
  · have hline : Entered line := by simp [Entered, hparse]
    simp [hline, complainInvalid, complain, ParseError.report]
  · have hline : ¬ Entered line := by simp [Entered, hparse]
    simp [hline]
    rfl
  · have hline : Entered line := by simp [Entered, hparse]
    simp [hline, print]

theorem leavesInput_explain (hapart : i.Apart) (line : String) (last : Status) :
    LeavesInput i (explain line last : Session σ α η → Outcome × Session σ α η) := by
  unfold explain
  rcases parse line with e | _ | p
  · exact leavesInput_complain hapart _ _
  · exact .pure (⟨last, false⟩ : Outcome)
  · exact leavesInput_print hapart _ _

theorem round_explain (last : Status) (s : Session σ α η) (line : String) :
    round explain last s line =
      ⟨line, last, s.remember line, ⟨if Entered line then toldStatus line else last, false⟩,
        (s.remember line).mapHost (tell · line)⟩ := by
  simp only [round, explain_eq]

theorem length_rounds_explain (last : Status) (s : Session σ α η) (lines : List String) :
    (rounds explain last s lines).length = lines.length := by
  induction lines generalizing last s with
  | nil => rfl
  | cons line lines ih =>
      rw [rounds_of_not_exit (by rw [round_explain]), List.length_cons, ih, List.length_cons]

theorem status_rounds_explain (last : Status) (s : Session σ α η) (lines : List String) :
    ((rounds explain last s lines).getLast?.map (·.outcome.status)).getD last
      = toldStatusAfter last lines := by
  induction lines generalizing last s with
  | nil => rfl
  | cons line lines ih =>
      rw [rounds_of_not_exit (by rw [round_explain]), getD_getLast?_cons, ih, toldStatusAfter_cons,
        round_explain]

theorem sessionAfter_rounds_explain (last : Status) (s : Session σ α η) (lines : List String) :
    (sessionAfter s (rounds explain last s lines)).shell
        = { s.shell with host := lines.foldl tell s.shell.host } ∧
      (sessionAfter s (rounds explain last s lines)).calls = s.calls := by
  induction lines generalizing last s with
  | nil => exact ⟨rfl, rfl⟩
  | cons line lines ih =>
      have hremember : (s.remember line).shell = s.shell ∧ (s.remember line).calls = s.calls := by
        unfold remember
        split <;> exact ⟨rfl, rfl⟩
      rw [rounds_of_not_exit (by rw [round_explain]), sessionAfter_cons, round_explain]
      obtain ⟨hshell, hcalls⟩ := ih (if Entered line then toldStatus line else last)
        ((s.remember line).mapHost (tell · line))
      rw [hshell, hcalls, ← hremember.1, ← hremember.2]
      exact ⟨rfl, rfl⟩

/-- A session that explained all of its input. -/
structure ExplainsAll (i : Intake σ) (written reported : σ → Bytes) (s : Session σ α η)
    (stream : Bytes) (rs : List (Round (Session σ α η))) (result : Status × Session σ α η) :
    Prop where
  folds : FoldsOver i explain s stream rs result
  /-- No line stops the session. -/
  all : rs.length = (lineTexts stream).length
  unread : result.2.Left i []
  /-- Nothing was opened, started or awaited. -/
  events : result.2.shell.events = s.shell.events
  descriptors : result.2.shell.descriptors = s.shell.descriptors
  calls : result.2.calls = s.calls
  /-- The host has been told what the lines come to, and has not been asked for anything else but
  the input. -/
  host : i.drained result.2.shell.host = (lineTexts stream).foldl tell (i.drained s.shell.host)
  /-- Whatever has to do neither with texts that are shown nor with the input, such as the files, is
  as it was. -/
  kept : ∀ {τ : Type} (look : σ → τ), (∀ text host, look (Console.print text host) = look host) →
    (∀ text host, look (Console.report text host) = look host) →
    (∀ host, look (i.drained host) = look host) → look result.2.shell.host = look s.shell.host
  /-- Of every line that is read as a pipeline the JSON text of this has been written, indented, and
  a line feed after it. -/
  written_eq : ∃ texts : List String,
    List.Forall₂ (fun p text => Json.Reads .indented 0 .value p.toJson text.toList [])
      ((lineTexts stream).filterMap pipeline?) texts ∧
    written result.2.shell.host =
      written s.shell.host ++ texts.flatMap fun text => utf8 (text ++ "\n")
  reported_eq : reported result.2.shell.host =
    reported s.shell.host ++ ((lineTexts stream).filterMap diagnostic?).flatMap utf8
  status : result.1 = toldStatusAfter 0 (lineTexts stream)

/-- A session that explains comes to the end of its input. -/
theorem exists_explainsAll {written reported : σ → Bytes} (hapart : i.Apart)
    (hshows : i.Shows written reported) (prompt : String) {s : Session σ α η} {stream : Bytes}
    (hleft : s.Left i stream) (hinput : Console.isTerminal s.shell.host = false) :
    ∃ rs, ExplainsAll i written reported s stream rs (s.converse explain prompt) := by
  obtain ⟨rs, hfolds⟩ := exists_foldsOver prompt hleft hinput
    fun line _ last => leavesInput_explain hapart line last
  have hlength : rs.length = (lineTexts stream).length := by
    have hrounds := congrArg List.length hfolds.folds
    rwa [List.length_map, length_rounds_explain] at hrounds
  obtain ⟨hshell, hcalls⟩ := sessionAfter_rounds_explain 0 (s.drained i) (lineTexts stream)
  rw [← hfolds.ends] at hshell hcalls
  have hhost : i.drained (s.converse explain prompt).2.shell.host
      = (lineTexts stream).foldl tell (i.drained s.shell.host) := congrArg Shell.host hshell
  have hevents := congrArg Shell.events hshell
  have hdescriptors := congrArg Shell.descriptors hshell
  refine ⟨rs, hfolds, hlength, ?_, hevents, hdescriptors, hcalls, hhost, ?_, ?_, ?_, ?_⟩
  · have hunread := hfolds.unread
    rwa [hlength, lineTexts, List.length_map, List.drop_length] at hunread
  · intro τ look hprint hreport hdrained
    rw [← hdrained, hhost, foldl_tell_eq hprint hreport, hdrained]
  · refine ⟨((lineTexts stream).filterMap pipeline?).map Pipeline.explain, ?_, ?_⟩
    · exact List.forall₂_map_right_iff.mpr (List.forall₂_same.mpr fun p _ => reads_explain p)
    · rw [← hshows.written_drained, hhost, foldl_tell (written_tell hshows),
        hshows.written_drained, filterMap_explanation?, List.flatMap_map]
  · rw [← hshows.reported_drained, hhost, foldl_tell (reported_tell hshows),
      hshows.reported_drained]
  · have hstatus := status_rounds_explain 0 (s.drained i) (lineTexts stream)
    rw [← hfolds.folds, statuses_drained] at hstatus
    exact hfolds.status.trans hstatus

/-- A shell that only explains goes through all of its input, shows what every line is read as or
what is wrong with it, and does nothing else. It complains about a line exactly as if the line were
to be carried out. -/
theorem start_explains [Host σ α η] (i : Intake σ) (written reported : σ → Bytes)
    (hapart : i.Apart) (hshows : i.Shows written reported) (prompt : String) (s : Session σ α η)
    (stream : Bytes) (hleft : s.Left i stream)
    (hinput : Console.isTerminal s.shell.host = false) :
    (∃ rs, ExplainsAll i written reported s stream rs (s.start { explain := true, prompt })) ∧
      ∀ line message, diagnostic? line = some message →
        ∀ (r : Registry (Session σ α η)) (last : Status) (t : Session σ α η),
          explain line last t = dispatch r line last t ∧
            dispatch r line last t = (⟨-1, false⟩, t.mapHost (Console.report message)) := by
  constructor
  · exact exists_explainsAll hapart hshows prompt hleft hinput
  · intro line message hmessage r last t
    unfold diagnostic? at hmessage
    unfold explain dispatch Registry.route
    rcases hparse : parse line with e | o
    · rw [hparse] at hmessage
      obtain rfl := Option.some.inj hmessage
      exact ⟨rfl, rfl⟩
    · rw [hparse] at hmessage
      cases hmessage

end Session

namespace Machine

theorem pipeIntake_shows :
    pipeIntake.Shows (·.world.output.toBytes) (·.world.errors.toBytes) where
  written_print text m := Queue.toBytes_add m.world.output (utf8 text)
  reported_print _ _ := rfl
  written_report _ _ := rfl
  reported_report text m := Queue.toBytes_add m.world.errors (utf8 text)
  written_drained _ := rfl
  reported_drained _ := rfl

/-- A line that would ask to exit, a blank one and one that cannot be read. -/
def muddle : Bytes :=
  utf8 "exit 3\n \n|x"

def exitExplained : String :=
  "\n".intercalate
    ["[", "  \x7b", "    \"argv\": [", "      \"exit\",", "      \"3\"", "    ],",
      "    \"input\": null,", "    \"output\": \x7b", "      \"mode\": \"inherit\"",
      "    \x7d", "  \x7d", "]", ""]

def explainedMuddle : Status × Session Machine Channel Nat :=
  (shellReading muddle).start { explain := true, prompt := "" }

/-- The shell does not exit, shows what the line would do that asks to, complains about the line
that cannot be read, and leaves the files as they are. -/
theorem start_explains_muddle :
    (shellReading muddle).Left pipeIntake muddle ∧
      Console.isTerminal (shellReading muddle).shell.host = false ∧ pipeIntake.Apart ∧
      pipeIntake.Shows (·.world.output.toBytes) (·.world.errors.toBytes) ∧
      (∃ rs, Session.ExplainsAll pipeIntake (·.world.output.toBytes) (·.world.errors.toBytes)
        (shellReading muddle) muddle rs explainedMuddle) ∧
      explainedMuddle.1 = -1 ∧
      explainedMuddle.2.shell.host.world.tree = (shellReading muddle).shell.host.world.tree ∧
      explainedMuddle.2.shell.host.world.output.toBytes = utf8 exitExplained ∧
      explainedMuddle.2.shell.host.world.errors.toBytes
        = utf8 "pipesh: input parse error: missing command\n" := by
  have htexts : lineTexts muddle = ["exit 3", " ", "|x"] := by
    rw [lineTexts_ascii rfl]
    decide
  obtain ⟨⟨rs, hexplains⟩, -⟩ := Session.start_explains pipeIntake (·.world.output.toBytes)
    (·.world.errors.toBytes) pipeIntake_apart pipeIntake_shows "" (shellReading muddle) muddle
    (left_shellReading muddle) rfl
  change Session.ExplainsAll _ _ _ _ _ _ explainedMuddle at hexplains
  have htree := hexplains.kept (·.world.tree) (fun _ _ => rfl) (fun _ _ => rfl) fun _ => rfl
  have hstatus := hexplains.status
  have houtput : explainedMuddle.2.shell.host.world.output.toBytes =
      ((lineTexts muddle).filterMap explanation?).flatMap utf8 := by
    rw [← pipeIntake_shows.written_drained, hexplains.host,
      foldl_tell (written_tell pipeIntake_shows)]
    rfl
  have herrors := hexplains.reported_eq
  rw [htexts] at hstatus houtput herrors
  exact ⟨left_shellReading muddle, rfl, pipeIntake_apart, pipeIntake_shows, ⟨rs, hexplains⟩,
    hstatus.trans rfl, htree, houtput.trans (by decide +kernel), herrors.trans rfl⟩

end Machine

end ShellPipeline
