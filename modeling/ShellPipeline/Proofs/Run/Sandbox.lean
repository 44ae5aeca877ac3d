import Mathlib.Logic.Function.Basic
import ShellPipeline.Run.Host
import ShellPipeline.World.Basic

/-!
# A machine on which bytes can be followed

All files of a sandbox are regular files. A process runs to its end as soon as it is created: it
reads its standard input to the end, and then it writes what its program makes of that. A pipe takes
any number of bytes, and whoever reads it while it can still be written waits forever. The system
may refuse any request.
-/

namespace ShellPipeline

/-- What does not change on a sandbox. -/
structure Setting where
  /-- The file that a path stands for. Paths may stand for the same file. -/
  locate : String → Nat
  /-- What the process of the stage at a position writes, from what it received. -/
  programs : Nat → Bytes → Bytes
  /-- What the system refuses, by the number of requests before. -/
  refusals : Nat → Option Errno := fun _ => none
  exits : Nat → Except Fault Exit := fun _ => .ok (.exited 0)

/-- A machine of regular files, of which the processes run to their end at once. -/
structure Sandbox where
  setting : Setting
  /-- The contents of the files that exist. -/
  contents : Nat → Option Bytes
  files : List OpenFile := []
  pipes : List Pipe := []
  /-- What can be read from the standard input of the shell. -/
  input : Bytes := []
  /-- What was written to the standard output of the shell. -/
  output : Bytes := []
  /-- What the processes received, with the positions of their stages. A process that waits forever
  receives nothing. -/
  received : List (Nat × Option Bytes) := []
  requests : Nat := 0

theorem getElem?_append_of_eq_some {β : Type} {l : List β} {n : Nat} {b : β} (more : List β)
    (h : l[n]? = some b) : (l ++ more)[n]? = some b := by
  rw [List.getElem?_append_left (List.getElem?_eq_some_iff.mp h).1, h]

def Launch.object? {α : Type} (l : Launch α) (c : Connection) (standard : Nat) : Option α :=
  l.descriptors.get? (c.descriptor?.getD standard)

namespace Sandbox

def request {ε β : Type} (refuse : Errno → ε) (answer : Sandbox → Except ε β × Sandbox)
    (h : Sandbox) : Except ε β × Sandbox :=
  match h.setting.refusals h.requests with
  | some e => (.error (refuse e), { h with requests := h.requests + 1 })
  | none =>
    let (outcome, h) := answer h
    (outcome, { h with requests := h.requests + 1 })

def addFile (h : Sandbox) (f : OpenFile) : Channel × Sandbox :=
  (.file h.files.length, { h with files := h.files ++ [f] })

def openInput (path : String) : Sandbox → Except PathFault Channel × Sandbox :=
  request .errno fun h =>
    match h.contents (h.setting.locate path) with
    | none => (.error (.errno .noEntry), h)
    | some _ =>
      let (c, h) := h.addFile { node := h.setting.locate path }
      (.ok c, h)

def contentsFor (h : Sandbox) : Output → Nat → Option Bytes
  | .file .truncate path => Function.update h.contents (h.setting.locate path) (some [])
  | .file .append path =>
    Function.update h.contents (h.setting.locate path)
      (some ((h.contents (h.setting.locate path)).getD []))
  | _ => h.contents

def writing (mode : WriteMode) (file : Nat) : OpenFile :=
  { node := file, reads := false, writes := true, appends := mode = .append }

def openOutput (mode : WriteMode) (path : String) : Sandbox → Except PathFault Channel × Sandbox :=
  request .errno fun h =>
    let (c, h) := { h with contents := h.contentsFor (.file mode path) }.addFile
      (writing mode (h.setting.locate path))
    (.ok c, h)

def makePipe : Sandbox → Except Errno (Channel × Channel) × Sandbox :=
  request id fun h =>
    (.ok (.reader h.pipes.length, .writer h.pipes.length), { h with pipes := h.pipes ++ [{}] })

def protect (_ : Channel) : Sandbox → Except Errno Unit × Sandbox :=
  request id fun h => (.ok (), h)

def release (c : Channel) (h : Sandbox) : Sandbox :=
  match c with
  | .reader n =>
    { h with pipes := h.pipes.modify n fun p => { p with readers := p.readers - 1 } }
  | .writer n =>
    { h with pipes := h.pipes.modify n fun p => { p with writers := p.writers - 1 } }
  | _ => h

/-- What is received by reading a channel to its end, if there is an end. -/
def offer (h : Sandbox) : Channel → Option Bytes
  | .terminal => some h.input
  | .reader n =>
    h.pipes[n]?.bind fun p => if p.writers = 0 then some p.content.toBytes else none
  | .file n =>
    h.files[n]?.bind fun f =>
      if f.reads then (h.contents f.node).map (·.drop f.offset) else none
  | _ => none

def drain (h : Sandbox) : Channel → Sandbox
  | .terminal => { h with input := [] }
  | .reader n => { h with pipes := h.pipes.modify n fun p => { p with content := {} } }
  | .file n =>
    { h with files := h.files.modify n fun f =>
      { f with offset := max f.offset ((h.contents f.node).getD []).length } }
  | _ => h

def writeFile (h : Sandbox) (n : Nat) (f : OpenFile) (bytes : Bytes) : Sandbox :=
  match f.writes, h.contents f.node with
  | true, some content =>
    let offset := if f.appends then content.length else f.offset
    { h with
      contents := Function.update h.contents f.node (some (World.splice content offset bytes))
      files := h.files.set n { f with offset := offset + bytes.length } }
  | _, _ => h

def send (h : Sandbox) (c : Channel) (bytes : Bytes) : Sandbox :=
  match c with
  | .output => { h with output := h.output ++ bytes }
  | .writer n =>
    { h with pipes := h.pipes.modify n fun p => { p with content := p.content.add bytes } }
  | .file n => (h.files[n]?).elim h fun f => h.writeFile n f bytes
  | _ => h

/-- Runs a process to its end, or until it waits forever. -/
def perform (l : Launch Channel) (h : Sandbox) : Sandbox :=
  let stdin := l.object? l.resolved.wiring.stdin standardInput
  let stdout := l.object? l.resolved.wiring.stdout standardOutput
  let received := stdin.bind h.offer
  let h := match received with
    | none => h
    | some bytes =>
      let h := stdin.elim h h.drain
      stdout.elim h fun c => h.send c (h.setting.programs l.index bytes)
  { h with received := h.received ++ [(l.index, received)] }

def spawn (l : Launch Channel) : Sandbox → Except Fault Nat × Sandbox :=
  request (.fork l.index) fun h => (.ok l.index, h.perform l)

instance : Host Sandbox Channel Nat where
  openInput := openInput
  openOutput := openOutput
  makePipe := makePipe
  protect := protect
  release := release
  spawn := spawn
  wait index _ h := (h.setting.exits index, h)

/-! ## Requests that were not refused -/

/-- From one state to the other no process has run. -/
structure Idles (h h' : Sandbox) : Prop where
  setting : h'.setting = h.setting
  input : h'.input = h.input
  output : h'.output = h.output
  received : h'.received = h.received

section Requests

variable {h h' h'' : Sandbox} {c c' : Channel} {path : String} {mode : WriteMode}

theorem Idles.refl (h : Sandbox) : Idles h h :=
  ⟨rfl, rfl, rfl, rfl⟩

theorem Idles.trans (hfirst : Idles h h') (hsecond : Idles h' h'') : Idles h h'' where
  setting := hsecond.setting.trans hfirst.setting
  input := hsecond.input.trans hfirst.input
  output := hsecond.output.trans hfirst.output
  received := hsecond.received.trans hfirst.received

theorem request_eq_ok {ε β : Type} {refuse : Errno → ε} {answer : Sandbox → Except ε β × Sandbox}
    {b : β} (hr : request refuse answer h = (.ok b, h')) :
    ∃ h'', answer h = (.ok b, h'') ∧ h' = { h'' with requests := h''.requests + 1 } := by
  unfold request at hr
  split at hr
  · cases hr
  · rcases ha : answer h with ⟨outcome, h''⟩
    rw [ha] at hr
    cases hr
    exact ⟨h'', rfl, rfl⟩

theorem openInput_eq_ok (ho : openInput path h = (.ok c, h')) :
    Idles h h' ∧ (∃ content, h.contents (h.setting.locate path) = some content) ∧
      c = .file h.files.length ∧ h'.contents = h.contents ∧
      h'.files = h.files ++ [{ node := h.setting.locate path }] ∧ h'.pipes = h.pipes := by
  obtain ⟨h'', ha, rfl⟩ := request_eq_ok ho
  split at ha
  · cases ha
  · next content hcontent =>
    cases ha
    exact ⟨⟨rfl, rfl, rfl, rfl⟩, ⟨content, hcontent⟩, rfl, rfl, rfl, rfl⟩

theorem openOutput_eq_ok (ho : openOutput mode path h = (.ok c, h')) :
    Idles h h' ∧ c = .file h.files.length ∧ h'.contents = h.contentsFor (.file mode path) ∧
      h'.files = h.files ++ [writing mode (h.setting.locate path)] ∧ h'.pipes = h.pipes := by
  obtain ⟨h'', ha, rfl⟩ := request_eq_ok ho
  cases ha
  exact ⟨⟨rfl, rfl, rfl, rfl⟩, rfl, rfl, rfl, rfl⟩

theorem makePipe_eq_ok (hm : makePipe h = (.ok (c, c'), h')) :
    Idles h h' ∧ c = .reader h.pipes.length ∧ c' = .writer h.pipes.length ∧
      h'.contents = h.contents ∧ h'.files = h.files ∧
      h'.pipes = h.pipes ++ [({} : Pipe)] := by
  obtain ⟨h'', ha, rfl⟩ := request_eq_ok hm
  cases ha
  exact ⟨⟨rfl, rfl, rfl, rfl⟩, rfl, rfl, rfl, rfl, rfl⟩

theorem protect_eq_ok (hp : protect c h = (.ok (), h')) :
    Idles h h' ∧ h'.contents = h.contents ∧ h'.files = h.files ∧ h'.pipes = h.pipes := by
  obtain ⟨h'', ha, rfl⟩ := request_eq_ok hp
  cases ha
  exact ⟨⟨rfl, rfl, rfl, rfl⟩, rfl, rfl, rfl⟩

theorem spawn_eq_ok {l : Launch Channel} {process : Nat} (hs : spawn l h = (.ok process, h')) :
    Idles (h.perform l) h' ∧ h'.contents = (h.perform l).contents ∧
      h'.pipes = (h.perform l).pipes := by
  obtain ⟨h'', ha, rfl⟩ := request_eq_ok hs
  cases ha
  exact ⟨⟨rfl, rfl, rfl, rfl⟩, rfl, rfl⟩

theorem idles_release (h : Sandbox) (c : Channel) : Idles h (h.release c) := by
  cases c <;> exact ⟨rfl, rfl, rfl, rfl⟩

theorem contents_release (h : Sandbox) (c : Channel) : (h.release c).contents = h.contents := by
  cases c <;> rfl

theorem pipes_release {n : Nat} (hreader : c ≠ .reader n) (hwriter : c ≠ .writer n) :
    (h.release c).pipes[n]? = h.pipes[n]? := by
  cases c with
  | reader m => exact List.getElem?_modify_ne _ _ fun heq => hreader (congrArg _ heq)
  | writer m => exact List.getElem?_modify_ne _ _ fun heq => hwriter (congrArg _ heq)
  | _ => rfl

end Requests

/-! ## Reading and writing -/

section Streams

variable {h h' : Sandbox} {c c' : Channel} {bytes : Bytes} {n : Nat}

@[simp] theorem setting_drain (h : Sandbox) (c : Channel) : (h.drain c).setting = h.setting := by
  cases c <;> rfl

@[simp] theorem contents_drain (h : Sandbox) (c : Channel) : (h.drain c).contents = h.contents := by
  cases c <;> rfl

@[simp] theorem output_drain (h : Sandbox) (c : Channel) : (h.drain c).output = h.output := by
  cases c <;> rfl

@[simp] theorem received_drain (h : Sandbox) (c : Channel) : (h.drain c).received = h.received := by
  cases c <;> rfl

theorem input_drain (h : Sandbox) (c : Channel) :
    (h.drain c).input = if c = .terminal then [] else h.input := by
  cases c <;> rfl

theorem send_eq (h : Sandbox) (c : Channel) (bytes : Bytes) :
    h.send c bytes = { h with
      contents := (h.send c bytes).contents, files := (h.send c bytes).files,
      pipes := (h.send c bytes).pipes, output := (h.send c bytes).output } := by
  cases c with
  | file n =>
      cases hf : h.files[n]? with
      | none => simp [send, hf]
      | some f =>
          simp only [send, hf, Option.elim_some, writeFile]
          split <;> rfl
  | _ => rfl

/-- What a channel offers does not change when more is opened. -/
theorem offer_mono (hcontents : h'.contents = h.contents) (hinput : h'.input = h.input)
    (hfiles : ∃ more, h'.files = h.files ++ more) (hpipes : ∃ more, h'.pipes = h.pipes ++ more)
    (ho : h.offer c = some bytes) : h'.offer c = some bytes := by
  cases c with
  | terminal => simpa [offer, hinput] using ho
  | reader n =>
      obtain ⟨more, hmore⟩ := hpipes
      obtain ⟨p, hp, hoffer⟩ := Option.bind_eq_some_iff.mp ho
      simpa [offer, hmore, getElem?_append_of_eq_some more hp] using hoffer
  | file n =>
      obtain ⟨more, hmore⟩ := hfiles
      obtain ⟨f, hf, hoffer⟩ := Option.bind_eq_some_iff.mp ho
      simpa [offer, hmore, getElem?_append_of_eq_some more hf, hcontents] using hoffer
  | _ => cases ho

/-! ## Where an output goes -/

/-- What is in the files and what was written to the standard output of the shell once an output
has received all bytes. -/
def delivered (h : Sandbox) (o : Output) (bytes : Bytes) : (Nat → Option Bytes) × Bytes :=
  match o with
  | .inherit => (h.contents, h.output ++ bytes)
  | .pipe => (h.contents, h.output)
  | .file .truncate path =>
    (Function.update h.contents (h.setting.locate path) (some bytes), h.output)
  | .file .append path =>
    (Function.update h.contents (h.setting.locate path)
      (some ((h.contents (h.setting.locate path)).getD [] ++ bytes)), h.output)

theorem contentsFor_congr (hsetting : h'.setting = h.setting) (hcontents : h'.contents = h.contents)
    (o : Output) : h'.contentsFor o = h.contentsFor o := by
  unfold contentsFor
  rw [hsetting, hcontents]

/-- A file does not go away when an output is opened. -/
theorem exists_contentsFor {file : Nat} (hbytes : h.contents file = some bytes) (o : Output) :
    ∃ more, h.contentsFor o file = some more := by
  match o with
  | .inherit => exact ⟨bytes, hbytes⟩
  | .pipe => exact ⟨bytes, hbytes⟩
  | .file mode path =>
      by_cases hfile : file = h.setting.locate path
      · cases mode <;> simp [contentsFor, hfile]
      · cases mode <;> simp [contentsFor, hfile, hbytes]

/-- The channel of an output that was opened. -/
inductive Outlet (h : Sandbox) : Output → Channel → Prop
  | inherit : Outlet h .inherit .output
  | pipe {n : Nat} : Outlet h .pipe (.writer n)
  | file {mode : WriteMode} {path : String} {n : Nat}
      (opened : h.files[n]? = some (writing mode (h.setting.locate path))) :
      Outlet h (.file mode path) (.file n)

theorem Outlet.drain {o : Output} (hout : Outlet h o c') (ho : h.offer c = some bytes) :
    Outlet (h.drain c) o c' := by
  cases hout with
  | inherit => exact .inherit
  | pipe => exact .pipe
  | @file mode path n opened =>
      refine .file ?_
      rw [setting_drain]
      cases c with
      | file m =>
          -- what can be read is not what was opened for writing
          have hne : m ≠ n := by
            rintro rfl
            simp [offer, opened, writing] at ho
          simpa [Sandbox.drain, List.getElem?_modify_ne _ _ hne] using opened
      | _ => exact opened

/-- An output that was opened receives the bytes as if it were written at once. -/
theorem Outlet.send_delivers {base : Sandbox} {o : Output} (hout : Outlet h o c)
    (hsetting : h.setting = base.setting) (hcontents : h.contents = base.contentsFor o)
    (houtput : h.output = base.output) (bytes : Bytes) :
    ((h.send c bytes).contents, (h.send c bytes).output) = base.delivered o bytes := by
  cases hout with
  | inherit => simp [send, delivered, hcontents, houtput, contentsFor]
  | pipe => simp [send, delivered, hcontents, houtput, contentsFor]
  | @file mode path n opened =>
      rw [hsetting] at opened
      cases mode with
      | truncate =>
          simp [send, opened, writeFile, writing, delivered, hcontents, houtput, contentsFor,
            World.splice_nil]
      | append =>
          simp [send, opened, writeFile, writing, delivered, hcontents, houtput, contentsFor,
            World.splice_length]

/-! ## Processes -/

section Processes

variable {l : Launch Channel}

/-- A process reads its input to the end, and writes what its program makes of it. -/
theorem perform_eq (hin : l.object? l.resolved.wiring.stdin standardInput = some c)
    (hout : l.object? l.resolved.wiring.stdout standardOutput = some c')
    (ho : h.offer c = some bytes) :
    h.perform l =
      { (h.drain c).send c' (h.setting.programs l.index bytes) with
        received := h.received ++ [(l.index, some bytes)] } := by
  have hreceived : ((h.drain c).send c' (h.setting.programs l.index bytes)).received =
      h.received := by
    rw [send_eq]
    exact received_drain h c
  simp [perform, hin, hout, ho, hreceived]

/-- A process that need not wait receives what is there and delivers what it makes of it. -/
theorem perform_delivers {base : Sandbox} {o : Output}
    (hin : l.object? l.resolved.wiring.stdin standardInput = some c)
    (hout : l.object? l.resolved.wiring.stdout standardOutput = some c')
    (ho : h.offer c = some bytes) (houtlet : Outlet h o c') (hsetting : h.setting = base.setting)
    (hcontents : h.contents = base.contentsFor o) (houtput : h.output = base.output) :
    (h.perform l).setting = base.setting ∧ (h.perform l).input = (h.drain c).input ∧
      (h.perform l).received = h.received ++ [(l.index, some bytes)] ∧
      ((h.perform l).contents, (h.perform l).output) =
        base.delivered o (base.setting.programs l.index bytes) := by
  have hsends := (houtlet.drain ho).send_delivers ((setting_drain h c).trans hsetting)
    ((contents_drain h c).trans hcontents) ((output_drain h c).trans houtput)
    (base.setting.programs l.index bytes)
  rw [perform_eq hin hout ho, hsetting]
  rw [send_eq] at hsends ⊢
  exact ⟨(setting_drain h c).trans hsetting, rfl, rfl, hsends⟩

/-- What a process writes to a pipe is in the pipe afterwards. -/
theorem pipes_perform (hin : l.object? l.resolved.wiring.stdin standardInput = some c)
    (hout : l.object? l.resolved.wiring.stdout standardOutput = some (.writer n))
    (ho : h.offer c = some bytes) (hc : c ≠ .reader n) :
    (h.perform l).pipes[n]? = h.pipes[n]?.map fun p =>
      { p with content := p.content.add (h.setting.programs l.index bytes) } := by
  rw [perform_eq hin hout ho]
  have hdrain : (h.drain c).pipes[n]? = h.pipes[n]? := by
    cases c with
    | reader m => exact List.getElem?_modify_ne _ _ fun heq => hc (congrArg _ heq)
    | _ => rfl
  simp [send, hdrain]

end Processes

end Streams

end Sandbox

end ShellPipeline
