import ShellPipeline.Proofs.Run.Connection
import ShellPipeline.Proofs.Run.Ownership
import ShellPipeline.Proofs.Run.Sandbox

/-!
# What flows through a pipeline

On a sandbox a pipeline is a composition of functions on bytes. Every stage receives its input file,
or what the stage before makes of what that one received, or what the shell could read; what the
last stage makes of this is delivered.

When a stage is connected, what it will receive is there already: a file has its content, and the
stage that wrote the pipe has ended. The invariant of the starting is that the pipe that is carried
over holds all that the stage before wrote, and that nobody can write it any more.
-/

namespace ShellPipeline

/-- What arrives at the next stage, after what arrived at the stages before it. A file is read when
the output of the stage has been opened, which may be the same file. -/
inductive Arrives (h : Sandbox) (stages : List Stage) (before : List Bytes) : Bytes → Prop
  | file {stage : Stage} {path : String} {bytes : Bytes}
      (next : stages[before.length]? = some stage) (names : stage.input = some path)
      (content : h.contentsFor stage.output (h.setting.locate path) = some bytes) :
      Arrives h stages before bytes
  | pipe {stage : Stage} {earlier : List Bytes} {last : Bytes}
      (next : stages[before.length]? = some stage) (names : stage.input = none)
      (after : before = earlier ++ [last]) :
      Arrives h stages before (h.setting.programs earlier.length last)
  | input {stage : Stage} (next : stages[before.length]? = some stage)
      (names : stage.input = none) (first : before = []) : Arrives h stages before h.input

namespace Sandbox

/-- What is left of the input of the shell when a number of stages has run. -/
def inputAfter (h : Sandbox) (stages : List Stage) : Nat → Bytes
  | 0 => h.input
  | _ + 1 => if stages.head?.bind Stage.input = none then [] else h.input

/-- What is in the files and what was written to the standard output of the shell when stages have
run that received some bytes. -/
def after (h : Sandbox) (stages : List Stage) (inbox : List Bytes) : (Nat → Option Bytes) × Bytes :=
  match inbox.getLast?, stages[inbox.length - 1]? with
  | some bytes, some stage =>
    h.delivered stage.output (h.setting.programs (inbox.length - 1) bytes)
  | _, _ => (h.contents, h.output)

variable {h : Sandbox} {stages : List Stage} {stage : Stage} {inbox : List Bytes}

/-- Only the first stage can read what the shell reads. -/
theorem inputAfter_succ {count : Nat} (hnext : stages[count]? = some stage)
    (hreads : count = 0 → stage.input ≠ none) :
    h.inputAfter stages (count + 1) = h.inputAfter stages count := by
  cases count with
  | zero => simp [inputAfter, List.head?_eq_getElem?, hnext, hreads]
  | succ count => rfl

theorem inputAfter_one (hnext : stages[0]? = some stage) (hnone : stage.input = none) :
    h.inputAfter stages 1 = [] := by
  simp [inputAfter, List.head?_eq_getElem?, hnext, hnone]

theorem after_concat (hnext : stages[inbox.length]? = some stage) (bytes : Bytes) :
    h.after stages (inbox ++ [bytes]) =
      h.delivered stage.output (h.setting.programs inbox.length bytes) := by
  simp [after, hnext]

/-- Nothing is delivered before the last stage has run. -/
theorem after_of_lt (hwell : WellWired stages) (hlt : inbox.length < stages.length) :
    h.after stages inbox = (h.contents, h.output) := by
  rcases inbox.eq_nil_or_concat' with rfl | ⟨earlier, last, rfl⟩
  · rfl
  · rw [List.length_append, List.length_singleton] at hlt
    have hnext : stages[earlier.length]? = some stages[earlier.length] :=
      List.getElem?_eq_getElem (Nat.lt_of_succ_lt hlt)
    rw [after_concat hnext, hwell.output_eq_pipe hnext hlt]
    rfl

end Sandbox

namespace Shell

variable {s t u v w : Shell Sandbox Channel Nat} {stages : List Stage} {stage : Stage}
  {inbox : List Bytes} {bytes : Bytes} {incoming downstream : Option Nat} {c : Connection}
  {index : Nat}

theorem idles_closeAll (s : Shell Sandbox Channel Nat) (fds : List Nat) :
    s.host.Idles (s.closeAll fds).host ∧ (s.closeAll fds).host.contents = s.host.contents := by
  induction fds generalizing s with
  | nil => exact ⟨.refl _, rfl⟩
  | cons fd fds ih =>
      obtain ⟨hidles, hcontents⟩ := ih (s.close fd)
      obtain ⟨hone, hsame⟩ : s.host.Idles (s.close fd).host ∧
          (s.close fd).host.contents = s.host.contents := by
        cases hget : s.descriptors.get? fd with
        | none => simpa [close, note, hget] using Sandbox.Idles.refl s.host
        | some a =>
            rw [host_close hget]
            exact ⟨s.host.idles_release a, s.host.contents_release a⟩
      exact ⟨hone.trans hidles, hcontents.trans hsame⟩

/-- The stages that were started so far received what they should, and the next one will. -/
structure Flowing (s : Shell Sandbox Channel Nat) (stages : List Stage) (inbox : List Bytes)
    (incoming : Option Nat) (t : Shell Sandbox Channel Nat) : Prop where
  setting : t.host.setting = s.host.setting
  arrives : Along (Arrives s.host stages) inbox
  received : t.host.received = s.host.received ++ numbered 0 (inbox.map some)
  input : t.host.input = s.host.inputAfter stages inbox.length
  results : (t.host.contents, t.host.output) = s.host.after stages inbox
  first : inbox = [] → incoming = none
  /-- The pipe that is carried over holds what the last one of the stages wrote. -/
  carried : ∀ earlier last, inbox = earlier ++ [last] → inbox.length < stages.length →
    ∃ fd n, incoming = some fd ∧ t.descriptors.get? fd = some (.reader n) ∧
      t.host.offer (.reader n) = some (s.host.setting.programs earlier.length last)

/-- Nothing was delivered before the last stage was started. -/
theorem Flowing.undelivered (h : Flowing s stages inbox incoming t) (hwell : WellWired stages)
    (hlt : inbox.length < stages.length) :
    t.host.contents = s.host.contents ∧ t.host.output = s.host.output := by
  have hresults := h.results
  rw [Sandbox.after_of_lt hwell hlt] at hresults
  exact Prod.mk.inj hresults

/-- The shell after the input of a stage was connected to a channel. -/
structure Fed (s : Shell Sandbox Channel Nat) (stages : List Stage) (stage : Stage)
    (inbox : List Bytes) (t u : Shell Sandbox Channel Nat) (channel : Channel) : Prop where
  idles : t.host.Idles u.host
  contents : u.host.contents = t.host.contents
  /-- What the stage receives is there once its output has been opened. -/
  arrives : ∃ bytes, Arrives s.host stages inbox bytes ∧
    { u.host with contents := u.host.contentsFor stage.output }.offer channel = some bytes
  input : (u.host.drain channel).input = s.host.inputAfter stages (inbox.length + 1)

theorem Flowing.openInput {path : String} {fd : Nat} (h : Flowing s stages inbox incoming t)
    (hwell : WellWired stages) (hnext : stages[inbox.length]? = some stage)
    (hpath : stage.input = some path)
    (ho : (t.closeAll incoming.toList).openInput path = (.ok fd, u)) :
    ∃ channel, u.descriptors.get? fd = some channel ∧ Fed s stages stage inbox t u channel := by
  obtain ⟨hcontents, -⟩ := h.undelivered hwell (List.getElem?_eq_some_iff.mp hnext).1
  obtain ⟨hclosed, hkept⟩ := idles_closeAll t incoming.toList
  obtain ⟨channel, host, hhost, rfl, rfl⟩ := openInput_eq_ok ho
  obtain ⟨hidles, ⟨content, hcontent⟩, rfl, hsame, hfiles, -⟩ := Sandbox.openInput_eq_ok hhost
  have hsetting : host.setting = s.host.setting :=
    hidles.setting.trans (hclosed.setting.trans h.setting)
  have hall : host.contents = s.host.contents := hsame.trans (hkept.trans hcontents)
  rw [hclosed.setting, h.setting, hkept, hcontents] at hcontent
  rw [hclosed.setting, h.setting] at hfiles
  obtain ⟨bytes, hbytes⟩ := Sandbox.exists_contentsFor hcontent stage.output
  refine ⟨_, Descriptors.get?_add_self _ _, hclosed.trans hidles, hsame.trans hkept,
    ⟨bytes, .file hnext hpath hbytes, ?_⟩, ?_⟩
  · simp [Sandbox.offer, hfiles, Sandbox.contentsFor_congr hsetting hall, hbytes]
  · rw [Sandbox.input_drain, if_neg (by simp), Sandbox.inputAfter_succ hnext (by simp [hpath])]
    exact hidles.input.trans (hclosed.input.trans h.input)

theorem Flowing.resolveInput (h : Flowing s stages inbox incoming t) (hwell : WellWired stages)
    (hnext : stages[inbox.length]? = some stage)
    (hterminal : t.descriptors.get? standardInput = some .terminal)
    (hr : t.resolveInput stage incoming = (.ok c, u)) :
    ∃ channel, u.descriptors.get? (c.descriptor?.getD standardInput) = some channel ∧
      Fed s stages stage inbox t u channel := by
  have hlt : inbox.length < stages.length := (List.getElem?_eq_some_iff.mp hnext).1
  rcases resolveInput_eq_ok hr with
    ⟨path, fd, hpath, ho, rfl⟩ | ⟨fd, hnone, rfl, rfl, rfl⟩ | ⟨hnone, rfl, rfl, rfl⟩
  · exact h.openInput hwell hnext hpath ho
  · have hinbox : inbox ≠ [] := fun hnil => by cases h.first hnil
    obtain ⟨earlier, last, rfl⟩ := (List.eq_nil_or_concat' inbox).resolve_left hinbox
    obtain ⟨fd', n, hfd, hget, hoffer⟩ := h.carried earlier last rfl hlt
    cases hfd
    refine ⟨.reader n, hget, .refl _, rfl, ⟨_, .pipe hnext hnone rfl, hoffer⟩, ?_⟩
    rw [Sandbox.input_drain, if_neg (by simp), Sandbox.inputAfter_succ hnext (by simp)]
    exact h.input
  · have hinbox : inbox = [] := by
      rcases List.eq_nil_or_concat' inbox with hnil | ⟨earlier, last, hconcat⟩
      · exact hnil
      · obtain ⟨fd, n, hfd, -⟩ := h.carried earlier last hconcat hlt
        cases hfd
    subst hinbox
    refine ⟨.terminal, hterminal, .refl _, rfl, ⟨_, .input hnext hnone rfl, ?_⟩, ?_⟩
    · exact congrArg some h.input
    · exact (Sandbox.inputAfter_one hnext hnone).symm

/-- The shell after the output of a stage was connected to a channel. -/
structure Drained (stage : Stage) (u v : Shell Sandbox Channel Nat) (channel : Channel) :
    Prop where
  idles : u.host.Idles v.host
  contents : v.host.contents = u.host.contentsFor stage.output
  files : ∃ more, v.host.files = u.host.files ++ more
  pipes : ∃ more, v.host.pipes = u.host.pipes ++ more
  table : ∀ fd a, u.descriptors.get? fd = some a → v.descriptors.get? fd = some a
  outlet : v.host.Outlet stage.output channel

theorem makePipe_idles {readEnd writeEnd : Nat}
    (hm : u.makePipe index = (.ok (readEnd, writeEnd), v)) :
    u.host.Idles v.host ∧ v.host.contents = u.host.contents ∧ v.host.files = u.host.files ∧
      v.host.pipes = u.host.pipes ++ [({} : Pipe)] ∧
      (∀ fd a, u.descriptors.get? fd = some a → v.descriptors.get? fd = some a) ∧
      v.descriptors.get? readEnd = some (.reader u.host.pipes.length) ∧
      v.descriptors.get? writeEnd = some (.writer u.host.pipes.length) := by
  obtain ⟨r, w, made, host, host', hmade, hr, hw, rfl, rfl, rfl⟩ := makePipe_eq_ok hm
  obtain ⟨hidles, rfl, rfl, hcontents, hfiles, hpipes⟩ := Sandbox.makePipe_eq_ok hmade
  obtain ⟨hidles', hcontents', hfiles', hpipes'⟩ := Sandbox.protect_eq_ok hr
  obtain ⟨hidles'', hcontents'', hfiles'', hpipes''⟩ := Sandbox.protect_eq_ok hw
  refine ⟨hidles.trans (hidles'.trans hidles''), hcontents''.trans (hcontents'.trans hcontents),
    hfiles''.trans (hfiles'.trans hfiles), hpipes''.trans (hpipes'.trans hpipes), ?_, ?_, ?_⟩
  · intro fd a hget
    exact Descriptors.get?_add_of_eq_some (Descriptors.get?_add_of_eq_some hget _) _
  · exact Descriptors.get?_add_of_eq_some (Descriptors.get?_add_self _ _) _
  · exact Descriptors.get?_add_self _ _

theorem resolveOutput_drained (houtput : u.descriptors.get? standardOutput = some .output)
    (hr : u.resolveOutput index stage = (.ok (c, downstream), v)) :
    ∃ channel, v.descriptors.get? (c.descriptor?.getD standardOutput) = some channel ∧
      Drained stage u v channel ∧
      (stage.output = .pipe → ∃ readEnd writeEnd, c = .pipe writeEnd ∧ downstream = some readEnd ∧
        v.descriptors.get? readEnd = some (.reader u.host.pipes.length) ∧
        channel = .writer u.host.pipes.length ∧
        v.host.pipes[u.host.pipes.length]? = some ({} : Pipe)) := by
  rcases resolveOutput_eq_ok hr with
    ⟨hout, rfl, rfl, rfl⟩ | ⟨mode, path, fd, hout, ho, rfl, rfl⟩ |
      ⟨readEnd, writeEnd, hout, hm, rfl, rfl⟩
  · refine ⟨.output, houtput, ⟨.refl _, ?_, ⟨[], by simp⟩, ⟨[], by simp⟩, fun fd a h => h, ?_⟩, ?_⟩
    · rw [hout]
      rfl
    · rw [hout]
      exact .inherit
    · simp [hout]
  · obtain ⟨channel, host, hhost, rfl, rfl⟩ := openOutput_eq_ok ho
    obtain ⟨hidles, rfl, hcontents, hfiles, hpipes⟩ := Sandbox.openOutput_eq_ok hhost
    refine ⟨_, Descriptors.get?_add_self _ _,
      ⟨hidles, ?_, ⟨_, hfiles⟩, ⟨[], by simpa using hpipes⟩, ?_, ?_⟩, by simp [hout]⟩
    · rw [hout]
      exact hcontents
    · exact fun fd a hget => Descriptors.get?_add_of_eq_some hget _
    · rw [hout]
      refine .file ?_
      rw [hidles.setting]
      simp [hfiles]
  · obtain ⟨hidles, hcontents, hfiles, hpipes, htable, hread, hwrite⟩ := makePipe_idles hm
    refine ⟨_, hwrite, ⟨hidles, ?_, ⟨[], by simpa using hfiles⟩, ⟨_, hpipes⟩, htable, ?_⟩, ?_⟩
    · rw [hout]
      exact hcontents
    · rw [hout]
      exact .pipe
    · exact fun _ => ⟨readEnd, writeEnd, rfl, rfl, hread, rfl, by simp [hpipes]⟩

/-- A pipe ends once the shell has closed what the stage that writes it is connected to. -/
theorem offer_closeAll {x : Shell Sandbox Channel Nat} {stdin : Option Nat} {writeEnd n : Nat}
    {channel : Channel} {p : Pipe} (hne : writeEnd ∉ stdin.toList)
    (hstdin : ∀ fd, stdin = some fd → x.descriptors.get? fd = some channel)
    (hreader : channel ≠ .reader n) (hwriter : channel ≠ .writer n)
    (hwrite : x.descriptors.get? writeEnd = some (.writer n))
    (hpipe : x.host.pipes[n]? = some p) (hone : p.writers = 1) :
    (x.closeAll (stdin.toList ++ [writeEnd])).host.offer (.reader n) = some p.content.toBytes := by
  rw [closeAll_append]
  have hkept : (x.closeAll stdin.toList).host.pipes[n]? = some p := by
    cases stdin with
    | none => exact hpipe
    | some fd =>
        have hhost : (x.close fd).host = x.host.release channel := host_close (hstdin fd rfl)
        exact (congrArg (·.pipes[n]?) hhost).trans
          ((Sandbox.pipes_release hreader hwriter).trans hpipe)
  have hhost : ((x.closeAll stdin.toList).closeAll [writeEnd]).host =
      (x.closeAll stdin.toList).host.release (.writer n) :=
    host_close ((get?_closeAll hne).trans hwrite)
  simp [hhost, Sandbox.offer, Sandbox.release, hkept, hone]

/-- The shell when a stage is connected to one channel to read and to another one to write. What the
stage receives is there, and where its output goes nothing has gone yet. -/
structure Ready (s : Shell Sandbox Channel Nat) (stages : List Stage) (stage : Stage)
    (inbox : List Bytes) (w : Shell Sandbox Channel Nat) (r : Resolved) (source sink : Channel)
    (bytes : Bytes) : Prop where
  reads : w.descriptors.get? (r.wiring.stdin.descriptor?.getD standardInput) = some source
  writes : w.descriptors.get? (r.wiring.stdout.descriptor?.getD standardOutput) = some sink
  offer : w.host.offer source = some bytes
  outlet : w.host.Outlet stage.output sink
  setting : w.host.setting = s.host.setting
  contents : w.host.contents = s.host.contentsFor stage.output
  output : w.host.output = s.host.output
  received : w.host.received = s.host.received ++ numbered 0 (inbox.map some)
  input : (w.host.drain source).input = s.host.inputAfter stages (inbox.length + 1)
  pipe : stage.output = .pipe → ∃ readEnd writeEnd n, r.wiring.stdout = .pipe writeEnd ∧
    r.downstream = some readEnd ∧ w.descriptors.get? readEnd = some (.reader n) ∧
    sink = .writer n ∧ w.host.pipes[n]? = some ({} : Pipe) ∧ source ≠ .reader n

/-- When the next stage is connected, what it should receive is there. -/
theorem Flowing.resolve (h : Flowing s stages inbox incoming t) (hwell : WellWired stages)
    (hnext : stages[inbox.length]? = some stage) (haccounts : Accounts s incoming.toList t)
    (hterminal : s.descriptors.get? standardInput = some .terminal)
    (houtput : s.descriptors.get? standardOutput = some .output) {r : Resolved}
    (hr : t.resolve inbox.length stage incoming = (.ok r, w)) :
    ∃ source sink bytes, Arrives s.host stages inbox bytes ∧
      Ready s stages stage inbox w r source sink bytes := by
  obtain ⟨hcontents, hout⟩ :=
    h.undelivered hwell (List.getElem?_eq_some_iff.mp hnext).1
  obtain ⟨u, hri, hro⟩ := resolve_eq_ok hr
  have hconnected : Accounts s r.wiring.stdin.descriptor?.toList u := by
    have hin := haccounts.resolveInput stage
    rwa [hri] at hin
  obtain ⟨source, hsource, hfed⟩ :=
    h.resolveInput hwell hnext (haccounts.get?_eq_some hterminal) hri
  obtain ⟨sink, hsink, hdrained, hpiped⟩ :=
    resolveOutput_drained (hconnected.get?_eq_some houtput) hro
  obtain ⟨bytes, harrives, hoffer⟩ := hfed.arrives
  have hidles := hfed.idles.trans hdrained.idles
  refine ⟨source, sink, bytes, harrives, hdrained.table _ _ hsource, hsink, ?_, hdrained.outlet,
    hidles.setting.trans h.setting, ?_, hidles.output.trans hout,
    hidles.received.trans h.received, ?_, ?_⟩
  · refine Sandbox.offer_mono ?_ ?_ ?_ ?_ hoffer
    exacts [hdrained.contents, hdrained.idles.input, hdrained.files, hdrained.pipes]
  · rw [hdrained.contents, Sandbox.contentsFor_congr (hfed.idles.setting.trans h.setting)]
    exact hfed.contents.trans hcontents
  · rw [Sandbox.input_drain, hdrained.idles.input, ← Sandbox.input_drain, hfed.input]
  · intro hpipe
    obtain ⟨readEnd, writeEnd, hstdout, hdownstream, hread, rfl, hmade⟩ := hpiped hpipe
    refine ⟨readEnd, writeEnd, _, hstdout, hdownstream, hread, rfl, hmade, ?_⟩
    -- what was there before is not the pipe that was made
    rintro rfl
    simp [Sandbox.offer] at hoffer

/-- When the process has run and the shell has closed what the stage was connected to, the pipe that
is kept holds what the process wrote. -/
theorem Ready.carried {r : Resolved} {source sink : Channel} {x : Shell Sandbox Channel Nat}
    (h : Ready s stages stage inbox w r source sink bytes) (hpipe : stage.output = .pipe)
    (hnodup : r.descriptors.Nodup) (htable : x.descriptors = w.descriptors)
    (hpipes : x.host.pipes =
      (w.host.perform ⟨inbox.length, stage, r, w.descriptors⟩).pipes) :
    ∃ fd n, r.downstream = some fd ∧
      (x.closeAll r.wiring.descriptors).descriptors.get? fd = some (.reader n) ∧
      (x.closeAll r.wiring.descriptors).host.offer (.reader n) =
        some (s.host.setting.programs inbox.length bytes) := by
  obtain ⟨readEnd, writeEnd, n, hstdout, hdownstream, hread, rfl, hmade, hsource⟩ := h.pipe hpipe
  obtain ⟨hwiring, -, hkeeps⟩ := List.nodup_append'.mp hnodup
  have hkept : readEnd ∉ r.wiring.descriptors := fun hmem => hkeeps hmem (by simp [hdownstream])
  refine ⟨readEnd, n, hdownstream, by rw [get?_closeAll hkept, htable, hread], ?_⟩
  have hwriteEnd : r.wiring.stdout.descriptor? = some writeEnd := by
    rw [hstdout]
    rfl
  have hne : writeEnd ∉ r.wiring.stdin.descriptor?.toList := fun hmem =>
    (List.nodup_append'.mp hwiring).2.2 hmem (by simp [hwriteEnd])
  have hwrite : x.descriptors.get? writeEnd = some (.writer n) := by
    simpa [htable, hwriteEnd] using h.writes
  have hfilled : x.host.pipes[n]? =
      some { content := ({} : Queue).add (s.host.setting.programs inbox.length bytes) } := by
    rw [hpipes, Sandbox.pipes_perform (l := ⟨inbox.length, stage, r, w.descriptors⟩) h.reads
      h.writes h.offer hsource, hmade, h.setting]
    rfl
  rw [Wiring.descriptors, hwriteEnd]
  refine (offer_closeAll hne ?_ hsource ?_ hwrite hfilled rfl).trans ?_
  · intro fd hfd
    simpa [htable, hfd] using h.reads
  · rintro rfl
    cases h.offer
  · exact congrArg some (Queue.toBytes_add _ _)

/-- A stage that runs when it is ready passes its output on. -/
theorem Ready.spawn {r : Resolved} {source sink : Channel}
    (h : Ready s stages stage inbox w r source sink bytes) (hwell : WellWired stages)
    (hnext : stages[inbox.length]? = some stage) (harrived : Along (Arrives s.host stages) inbox)
    (harrives : Arrives s.host stages inbox bytes) (hnodup : r.descriptors.Nodup) {process : Nat}
    (hs : w.spawn inbox.length stage r = (.ok process, v)) :
    Flowing s stages (inbox ++ [bytes]) r.downstream v := by
  obtain ⟨host, hspawn, rfl⟩ := spawn_eq_ok hs
  obtain ⟨hidles, hcontents, hpipes⟩ := Sandbox.spawn_eq_ok hspawn
  obtain ⟨hsetting, hinput, hreceived, hdelivered⟩ :=
    Sandbox.perform_delivers (l := ⟨inbox.length, stage, r, w.descriptors⟩) h.reads h.writes
      h.offer h.outlet h.setting h.contents h.output
  obtain ⟨hclosed, hkept⟩ := idles_closeAll ({ w with host }.note
    (w.attempt inbox.length stage r (.ok process))) r.wiring.descriptors
  refine ⟨?_, along_concat harrived harrives, ?_, ?_, ?_, by simp, ?_⟩
  · exact hclosed.setting.trans (hidles.setting.trans hsetting)
  · refine hclosed.received.trans (hidles.received.trans (hreceived.trans ?_))
    rw [h.received, List.map_append, List.map_singleton, numbered_concat]
    simp
  · refine hclosed.input.trans (hidles.input.trans (hinput.trans ?_))
    rw [h.input, List.length_append, List.length_singleton]
  · rw [Sandbox.after_concat hnext, ← hdelivered]
    exact Prod.ext (hkept.trans hcontents) (hclosed.output.trans hidles.output)
  · intro earlier last heq hmore
    obtain ⟨rfl, rfl⟩ : inbox = earlier ∧ bytes = last := by simpa using heq
    exact h.carried (hwell.output_eq_pipe hnext (by simpa using hmore)) hnodup rfl hpipes

/-- A stage that can be started receives what it should and leaves what the next one needs. -/
theorem Flowing.launch (h : Flowing s stages inbox incoming t) (hwell : WellWired stages)
    (hnext : stages[inbox.length]? = some stage) (haccounts : Accounts s incoming.toList t)
    (hterminal : s.descriptors.get? standardInput = some .terminal)
    (houtput : s.descriptors.get? standardOutput = some .output) {process : Nat}
    (hl : t.launch inbox.length stage incoming = (.ok (process, downstream), v)) :
    ∃ bytes, Flowing s stages (inbox ++ [bytes]) downstream v := by
  obtain ⟨r, w, hr, hs, rfl⟩ := launch_eq_ok hl
  have hresolved : Accounts s r.descriptors w := by
    have hresolve := haccounts.resolve inbox.length stage
    rwa [hr] at hresolve
  obtain ⟨source, sink, bytes, harrives, hready⟩ :=
    h.resolve hwell hnext haccounts hterminal houtput hr
  exact ⟨bytes, hready.spawn hwell hnext h.arrives harrives hresolved.nodup hs⟩

/-- Stages that were started have received what they should. -/
theorem Started.flowing {processes : List Nat} (h : Started s stages processes incoming t)
    (hwell : WellWired stages) (hterminal : s.descriptors.get? standardInput = some .terminal)
    (houtput : s.descriptors.get? standardOutput = some .output) :
    ∃ inbox, inbox.length = processes.length ∧ Flowing s stages inbox incoming t := by
  induction h with
  | nil =>
      refine ⟨[], rfl, rfl, ?_, by simp, rfl, rfl, fun _ => rfl, ?_⟩
      · simp [Along]
      · intro earlier last hnil
        simp at hnil
  | concat before next launch ih =>
      obtain ⟨inbox, hlength, hflow⟩ := ih
      rw [← hlength] at next launch
      obtain ⟨bytes, hmore⟩ :=
        hflow.launch hwell next (.of_started before) hterminal houtput launch
      exact ⟨inbox ++ [bytes], by simp [hlength], hmore⟩

theorem idles_reapAll (s : Shell Sandbox Channel Nat) (last : Nat)
    (processes : List (Nat × Nat)) :
    s.host.Idles (s.reapAll last processes).2.host ∧
      (s.reapAll last processes).2.host.contents = s.host.contents :=
  reapAll_invariant (P := fun t => s.host.Idles t.host ∧ t.host.contents = s.host.contents)
    (fun _ _ _ h => h) (fun _ _ h => h) ⟨.refl _, rfl⟩ last processes

/-- When all stages could be started all has flowed, and the rest of the run changes nothing. -/
theorem exists_flowing_of_launchAll {p : Pipeline}
    (hterminal : s.descriptors.get? standardInput = some .terminal)
    (houtput : s.descriptors.get? standardOutput = some .output)
    (hall : (s.launchAll 0 none p.stages).1.processes.length = p.length) :
    ∃ inbox incoming t, inbox.length = p.length ∧ Flowing s p.stages inbox incoming t ∧
      t.host.Idles (s.run p).2.host ∧ (s.run p).2.host.contents = t.host.contents := by
  obtain ⟨processes, leftover, fault, t, hends, hl⟩ := launchAll_launchEnds s p.stages
  have hlength : processes.length = p.length := by simpa [hl, numbered] using hall
  obtain rfl : fault = none := hends.fault_eq_none_iff.mpr hlength
  have hstarted : Started s p.stages processes leftover t := by
    cases hends with
    | all started _ => exact started
  obtain ⟨inbox, hinbox, hflow⟩ := hstarted.flowing p.wellWired hterminal houtput
  obtain ⟨hclosed, hkept⟩ := idles_closeAll t leftover.toList
  obtain ⟨hreaped, hleft⟩ := idles_reapAll (t.closeAll leftover.toList) p.lastIndex
    (numbered 0 processes)
  obtain ⟨outcomes, -, hrun, -⟩ := run_of_launchAll hl
  refine ⟨inbox, leftover, t, hinbox.trans hlength, hflow, ?_, ?_⟩ <;> rw [hrun]
  · exact hclosed.trans hreaped
  · exact hleft.trans hkept

/-- If every stage of a pipeline could be started, every stage received its input file, or what the
stage before made of what that one received, or what the shell could read, and what the last stage
made of what it received was delivered. -/
theorem run_delivers (s : Shell Sandbox Channel Nat) (p : Pipeline)
    (hterminal : s.descriptors.get? standardInput = some .terminal)
    (houtput : s.descriptors.get? standardOutput = some .output)
    (hall : (s.launchAll 0 none p.stages).1.processes.length = p.length) :
    ∃ (inbox : List Bytes) (last : Stage) (bytes : Bytes),
      inbox.length = p.length ∧ Along (Arrives s.host p.stages) inbox ∧
      (s.run p).2.host.received = s.host.received ++ numbered 0 (inbox.map some) ∧
      (s.run p).2.host.input = (if p.first.input = none then [] else s.host.input) ∧
      p.stages[p.lastIndex]? = some last ∧ inbox[p.lastIndex]? = some bytes ∧
      ((s.run p).2.host.contents, (s.run p).2.host.output) =
        s.host.delivered last.output (s.host.setting.programs p.lastIndex bytes) := by
  obtain ⟨inbox, incoming, t, hlength, hflow, hidles, hcontents⟩ :=
    exists_flowing_of_launchAll hterminal houtput hall
  have hlt := p.lastIndex_lt_length
  have hnonempty : inbox ≠ [] := by
    rintro rfl
    exact Nat.not_lt_zero _ (hlength ▸ hlt)
  obtain ⟨earlier, bytes, rfl⟩ := (List.eq_nil_or_concat' inbox).resolve_left hnonempty
  have hlast : p.lastIndex = earlier.length := by
    rw [Pipeline.lastIndex, ← hlength, List.length_append, List.length_singleton,
      Nat.add_sub_cancel]
  obtain ⟨last, hstage⟩ : ∃ last, p.stages[p.lastIndex]? = some last :=
    ⟨_, List.getElem?_eq_getElem hlt⟩
  refine ⟨earlier ++ [bytes], last, bytes, hlength, hflow.arrives,
    hidles.received.trans hflow.received, ?_, hstage, by simp [hlast], ?_⟩
  · have hfirst : p.stages.head? = some p.first := List.head?_eq_some_head _
    rw [hidles.input, hflow.input, List.length_append, List.length_singleton, Sandbox.inputAfter,
      hfirst, Option.bind_some]
  · have hdelivered := hflow.results
    rw [Sandbox.after_concat (hlast ▸ hstage), ← hlast] at hdelivered
    rw [← hdelivered, hcontents, hidles.output]

def overwriting : Pipeline where
  stages := [(Stage.ofArgv ["cat"]).withOutput .pipe,
    ((Stage.ofArgv ["cat"]).withInput "old").withOutput (.file .truncate "new")]
  wellWired := by decide

/-- A shell on a machine where all paths stand for one file. Every program writes its position
before what it received. -/
def aliasing : Shell Sandbox Channel Nat where
  descriptors := ⟨[some .terminal, some .output]⟩
  host :=
    { setting := { locate := fun _ => 0, programs := fun i bytes => UInt8.ofNat i :: bytes }
      contents := fun _ => some [7]
      input := [8, 9] }

/-- A file that is overwritten is read when it is empty already. -/
theorem run_delivers_overwriting :
    (∃ (inbox : List Bytes) (last : Stage) (bytes : Bytes),
      inbox.length = overwriting.length ∧
      Along (Arrives aliasing.host overwriting.stages) inbox ∧
      (aliasing.run overwriting).2.host.received = numbered 0 (inbox.map some) ∧
      (aliasing.run overwriting).2.host.input = [] ∧
      overwriting.stages[overwriting.lastIndex]? = some last ∧
      inbox[overwriting.lastIndex]? = some bytes ∧
      ((aliasing.run overwriting).2.host.contents, (aliasing.run overwriting).2.host.output) =
        aliasing.host.delivered last.output
          (aliasing.host.setting.programs overwriting.lastIndex bytes)) ∧
    (aliasing.run overwriting).2.host.received = [(0, some [8, 9]), (1, some [])] ∧
    (aliasing.run overwriting).2.host.contents 0 = some [1] :=
  ⟨run_delivers aliasing overwriting rfl rfl rfl, rfl, rfl⟩

end Shell

end ShellPipeline
