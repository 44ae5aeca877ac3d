import ShellPipeline.Machine.Shell
import ShellPipeline.Proofs.Run.Connection
import ShellPipeline.Proofs.Run.Ownership
import ShellPipeline.Proofs.World.Held

/-!
# What connecting a stage does to files

Of all requests of a stage that is connected only the opening of its output can change a file, and
it is the last one. So a stage that cannot be connected leaves all files as they were, and one that
can be has changed at most the file that it writes.

A host stands on a world if each of its requests is refused or does what the world does.
-/

namespace ShellPipeline

def WriteMode.keeps : WriteMode → Bytes → Bytes
  | .truncate, _ => []
  | .append, content => content

/-- A request was refused, or it was answered as the world answers it. -/
def World.Answers {ε β : Type} (request : World → Except ε β × World) (w : World)
    (outcome : Except ε β) (w' : World) : Prop :=
  (∃ e, outcome = .error e) ∧ w' = w ∨ request w = (outcome, w')

theorem World.Answers.of_ok {ε β : Type} {request : World → Except ε β × World} {w w' : World}
    {b : β} (h : World.Answers request w (.ok b) w') : request w = (.ok b, w') := by
  rcases h with ⟨⟨e, he⟩, -⟩ | h
  · cases he
  · exact h

/-- A host whose files and pipes are those of a world. -/
structure OnWorld {σ η : Type} [Host σ Channel η] (world : σ → World) : Prop where
  openInput : ∀ path (h : σ), World.Answers (World.openInput path) (world h)
    (Host.openInput path h).1 (world (Host.openInput path h).2)
  openOutput : ∀ mode path (h : σ), World.Answers (World.openOutput mode path) (world h)
    (Host.openOutput mode path h).1 (world (Host.openOutput mode path h).2)
  makePipe : ∀ h : σ, World.Answers World.makePipe (world h) (Host.makePipe h).1
    (world (Host.makePipe h).2)
  protect : ∀ c (h : σ), world (Host.protect c h).2 = world h
  release : ∀ c (h : σ), world (Host.release c h) = (world h).release c

theorem Machine.onWorld_world : OnWorld Machine.world where
  openInput := fun _ _ => Or.inr rfl
  openOutput := fun _ _ _ => Or.inr rfl
  makePipe := fun _ => Or.inr rfl
  protect := fun _ _ => rfl
  release := fun _ _ => rfl

theorem Rehearsal.onWorld_world : OnWorld Rehearsal.world where
  openInput := fun _ _ => Or.inr rfl
  openOutput := fun _ _ _ => Or.inr rfl
  makePipe := fun _ => Or.inr rfl
  protect := fun _ _ => rfl
  release := fun _ _ => rfl

namespace World

variable {w w' : World} {mode : WriteMode} {path : String} {number id : Nat}

/-- A path was opened for writing, under a number. The object that it leads to was emptied or kept,
or created, and no other file was changed. -/
structure OutputEffect (w : World) (mode : WriteMode) (path : String) (number id : Nat)
    (w' : World) : Prop where
  leads : w'.objectAt? path = some id
  opened : w'.files[number]? = some
    { node := id, offset := 0, reads := false, writes := true, appends := mode == .append }
  others : ∀ other, other ≠ id → w'.tree.file? other = w.tree.file? other
  paths : ∀ dir path i, w.tree.find dir path = .ok i → w'.tree.find dir path = .ok i
  existing : ∀ i, w.tree.find w.directory path = .ok i →
    ((∀ fd, w.tree.node? i ≠ some (.device (.descriptor fd))) → id = i) ∧
    (∀ other, other ≠ id → w'.tree.node? other = w.tree.node? other) ∧
    ∀ content bits, w.tree.file? id = some (content, bits) →
      w'.tree.file? id = some (mode.keeps content, bits)
  created : ∀ e, w.tree.find w.directory path = .error e →
    w.tree.node? id = none ∧
    w'.tree.file? id = some ([], unmasked 0o644 w.mask) ∧
    (w.mask = 0 → w'.tree.file? id = some ([], 0o644)) ∧
    ∃ above name d, w.tree.directory? above = some d ∧ Tree.child? above d name = none ∧
      w'.tree.directory? above = some { d with entries := d.entries ++ [(name, id)] } ∧
      ∀ other, other ≠ above → other ≠ id → w'.tree.node? other = w.tree.node? other
  /-- What is written later goes to the end, or else first to the beginning. -/
  later : ∀ used w'' content bits bytes, Later number used w' w'' →
    w''.tree.file? id = some (content, bits) →
      (mode = .append → w''.Fills number bytes id (content ++ bytes) bits) ∧
      (mode = .truncate → used = false →
        w''.Fills number bytes id (bytes ++ content.drop bytes.length) bits)

theorem node?_treeFor_ne {how : Access} {other : Nat} (h : other ≠ id) :
    (w.treeFor id how).node? other = w.tree.node? other := by
  unfold treeFor
  split
  · exact Tree.node?_truncate_ne h
  · rfl

theorem file?_treeFor {content : Bytes} {bits : Nat}
    (h : w.tree.file? id = some (content, bits)) :
    (w.treeFor id (outputAccess mode)).file? id = some (mode.keeps content, bits) := by
  cases mode with
  | truncate =>
      rw [Tree.file?_eq_some_iff] at h ⊢
      exact Tree.node?_truncate_file h
  | append => exact h

/-- To open a path for writing has no effect but on the object that it leads to. -/
theorem Written.effect (h : w.Written mode path number id w') :
    w.OutputEffect mode path number id w' := by
  refine ⟨h.leads, h.here, ?others, ?paths, ?existing, ?created,
    fun used w'' content bits bytes hlater hfile => hlater.fills h.here hfile bytes⟩
  case others =>
    intro other hother
    rcases hfind : w.tree.find w.directory path with e | i
    · obtain ⟨rfl, above, name, hcreated⟩ := h.created e hfind
      exact hcreated.file?_ne hother
    · rw [h.existing i hfind]
      exact Tree.file?_congr (node?_treeFor_ne hother)
  case paths =>
    intro dir path' i hi
    rcases hfind : w.tree.find w.directory path with e | i'
    · obtain ⟨-, above, name, hcreated⟩ := h.created e hfind
      exact Tree.find_of_grows hcreated.grows hi
    · rw [h.existing i' hfind]
      exact Tree.find_of_grows (grows_treeFor w id _) hi
  case existing =>
    intro i hi
    have hgrows := grows_treeFor w id (outputAccess mode)
    have htree := h.existing i hi
    refine ⟨?_, ?_, ?_⟩
    · intro hstandIn
      have hfind := Tree.find_of_grows hgrows hi
      rw [← htree, ← h.alike.directory] at hfind
      have hi' := objectAt?_of_find hfind fun fd hfd =>
        hstandIn fd (hgrows.device_iff.mp (htree ▸ hfd))
      exact Option.some.inj (h.leads.symm.trans hi')
    · intro other hother
      rw [htree]
      exact node?_treeFor_ne hother
    · intro content bits hfile
      rw [htree]
      exact file?_treeFor hfile
  case created =>
    intro e he
    obtain ⟨rfl, above, name, hcreated⟩ := h.created e he
    have hfile := Tree.file?_eq_some_iff.mpr hcreated.file
    obtain ⟨d, hd, hfree, hd'⟩ := hcreated.parent
    refine ⟨by simp [Tree.node?], hfile, ?_, above, name, d, hd, hfree, hd', hcreated.others⟩
    intro hmask
    rw [hfile, hmask]
    rfl

theorem OutputEffect.of_unchanged {u : World} (hu : w.Unchanged u)
    (h : u.OutputEffect mode path number id w') : w.OutputEffect mode path number id w' := by
  obtain ⟨hleads, hopened, hothers, hpaths, hexisting, hcreated, hlater⟩ := h
  simp only [hu.tree, hu.directory, hu.mask] at hothers hpaths hexisting hcreated
  exact ⟨hleads, hopened, hothers, hpaths, hexisting, hcreated, hlater⟩

end World

/-! ## Requests of a shell on a world -/

namespace Shell

variable {σ η : Type} [Host σ Channel η] {world : σ → World} {s t : Shell σ Channel η}
  {index fd : Nat} {stage : Stage} {incoming : Option Nat} {path : String} {mode : WriteMode}
  {f : Fault}

theorem unchanged_closeAll (hw : OnWorld world) (s : Shell σ Channel η) (fds : List Nat) :
    (world s.host).Unchanged (world (s.closeAll fds).host) := by
  induction fds generalizing s with
  | nil => exact .refl _
  | cons fd fds ih =>
      have hclose : (world s.host).Unchanged (world (s.close fd).host) := by
        rcases hfd : s.descriptors.get? fd with _ | a
        · simp [close, note, hfd, World.Unchanged.refl]
        · rw [host_close hfd, hw.release]
          exact World.unchanged_release _ a
      exact hclose.trans (ih (s.close fd))

theorem unchanged_openInput (hw : OnWorld world) (s : Shell σ Channel η) (path : String) :
    (world s.host).Unchanged (world (s.openInput path).2.host) := by
  rw [host_openInput]
  rcases hw.openInput path s.host with ⟨-, hsame⟩ | hanswer
  · rw [hsame]
    exact .refl _
  · rcases ho : (Host.openInput path s.host).1 with e | a <;> rw [ho] at hanswer
    · rw [World.openAs_eq_error hanswer]
      exact .refl _
    · exact (World.openInput_eq_ok hanswer).1

theorem unchanged_openOutput_error (hw : OnWorld world) {e : PathFault}
    (h : s.openOutput mode path = (.error e, t)) :
    (world s.host).Unchanged (world t.host) := by
  have hanswers := hw.openOutput mode path s.host
  rw [openOutput_eq_error h] at hanswers
  rcases hanswers with ⟨-, hsame⟩ | hanswer
  · rw [hsame]
    exact .refl _
  · rw [World.openAs_eq_error hanswer]
    exact .refl _

/-- The file of an output is emptied, kept or created. A stream that is opened once more stays as it
is. -/
theorem effect_of_openOutput (hw : OnWorld world) (h : s.openOutput mode path = (.ok fd, t)) :
    ∃ c, t.descriptors.get? fd = some c ∧
      ((world s.host).Unchanged (world t.host) ∧ (∀ number, c ≠ .file number) ∨
        ∃ number id, c = .file number ∧
          (world s.host).OutputEffect mode path number id (world t.host)) := by
  obtain ⟨c, host, hopen, rfl, rfl⟩ := openOutput_eq_ok h
  refine ⟨c, Descriptors.get?_add_self _ c, ?_⟩
  have hanswers := hw.openOutput mode path s.host
  rw [hopen] at hanswers
  rcases World.openOutput_eq_ok hanswers.of_ok with hrejoins | ⟨number, id, hc, hwritten⟩
  · exact Or.inl ⟨hrejoins.toUnchanged, hrejoins.noFile⟩
  · exact Or.inr ⟨number, id, hc, hwritten.effect⟩

theorem unchanged_protectBoth (hw : OnWorld world) (s : Shell σ Channel η) (r w : Channel) :
    world (s.protectBoth r w).2.host = world s.host := by
  have hr := hw.protect r s.host
  unfold protectBoth
  rcases hp : Host.protect r s.host with ⟨e | _, host⟩ <;> rw [hp] at hr
  · exact hr
  · exact (hw.protect w host).trans hr

theorem unchanged_makePipe (hw : OnWorld world) (s : Shell σ Channel η) (index : Nat) :
    (world s.host).Unchanged (world (s.makePipe index).2.host) := by
  have hmade : (world s.host).Unchanged (world (Host.makePipe s.host).2) := by
    rcases hw.makePipe s.host with ⟨-, hsame⟩ | hanswer
    · rw [hsame]
      exact .refl _
    · have hworld := (congrArg Prod.snd hanswer).symm
      dsimp only at hworld
      rw [hworld]
      unfold World.makePipe
      split <;> exact ⟨⟨rfl, rfl, rfl⟩, rfl⟩
  unfold makePipe
  rcases hm : Host.makePipe s.host with ⟨e | ⟨r, w⟩, host⟩ <;> rw [hm] at hmade
  · exact hmade
  · dsimp only
    set made : Shell σ Channel η := note _ _ with hnote
    have hboth : (world s.host).Unchanged (world (made.protectBoth r w).2.host) := by
      rw [unchanged_protectBoth hw]
      exact hmade
    rcases hp : made.protectBoth r w with ⟨e | _, v⟩ <;> rw [hp] at hboth
    · exact hboth.trans (unchanged_closeAll hw _ _)
    · exact hboth

theorem unchanged_resolveInput (hw : OnWorld world) (s : Shell σ Channel η) (stage : Stage)
    (incoming : Option Nat) :
    (world s.host).Unchanged (world (s.resolveInput stage incoming).2.host) := by
  unfold resolveInput
  cases stage.input with
  | some path =>
      have hopen := (unchanged_closeAll hw s incoming.toList).trans (unchanged_openInput hw _ path)
      rcases ho : (s.closeAll incoming.toList).openInput path with ⟨e | fd, u⟩ <;>
        rw [ho] at hopen <;> simpa only [ho] using hopen
  | none => cases incoming <;> exact .refl _

/-- A stage that cannot be connected has changed no file. -/
theorem unchanged_of_resolve_error (hw : OnWorld world)
    (h : s.resolve index stage incoming = (.error f, t)) :
    (world s.host).Unchanged (world t.host) := by
  have hin := unchanged_resolveInput hw s stage incoming
  rcases resolve_eq_error h with herror | ⟨c, u, v, hok, hout, rfl⟩
  · rwa [herror] at hin
  · rw [hok] at hin
    have hout' : (world u.host).Unchanged (world v.host) := by
      obtain ⟨mode, path, e, -, hopen, -⟩ | ⟨e, -, hpipe, -⟩ := resolveOutput_eq_error hout
      · exact unchanged_openOutput_error hw hopen
      · have hmade := unchanged_makePipe hw u index
        rwa [hpipe] at hmade
    exact (hin.trans hout').trans (unchanged_closeAll hw v _)

theorem exists_find_of_openInput (hw : OnWorld world) (h : s.openInput path = (.ok fd, t)) :
    ∃ i, (world s.host).tree.find (world s.host).directory path = .ok i := by
  obtain ⟨c, host, hopen, -, -⟩ := openInput_eq_ok h
  have hanswers := hw.openInput path s.host
  rw [hopen] at hanswers
  exact (World.openInput_eq_ok hanswers.of_ok).2

/-- What cannot be opened on the world cannot be opened on the host. -/
theorem exists_error_of_openInput (hw : OnWorld world) {e : PathFault}
    (h : (World.openInput path (world s.host)).1 = .error e) :
    ∃ e' t, s.openInput path = (.error e', t) := by
  rcases ho : s.openInput path with ⟨e' | fd, t⟩
  · exact ⟨e', t, rfl⟩
  · obtain ⟨c, host, hopen, -, -⟩ := openInput_eq_ok ho
    have hanswers := hw.openInput path s.host
    rw [hopen] at hanswers
    rw [hanswers.of_ok] at h
    cases h

theorem resolve_eq_of_openInput_error {e : PathFault} (hpath : stage.input = some path)
    (h : (s.closeAll incoming.toList).openInput path = (.error e, t)) :
    s.resolve index stage incoming = (.error (.openInput path e), t) := by
  simp [resolve, resolveInput, hpath, h]

/-- The world after a stage was connected: unless the stage writes a file, no object has changed. -/
theorem effect_of_resolve_ok (hw : OnWorld world) {r : Resolved}
    (h : s.resolve index stage incoming = (.ok r, t)) :
    ((∀ mode path, stage.output ≠ .file mode path) → (world s.host).Unchanged (world t.host)) ∧
    ∀ mode path, stage.output = .file mode path → ∃ fd c, r.wiring.stdout = .file fd ∧
      t.descriptors.get? fd = some c ∧
      ((world s.host).Unchanged (world t.host) ∧ (∀ number, c ≠ .file number) ∨
        ∃ number id, c = .file number ∧
          (world s.host).OutputEffect mode path number id (world t.host)) := by
  obtain ⟨u, hin, hout⟩ := resolve_eq_ok h
  have hu := unchanged_resolveInput hw s stage incoming
  rw [hin] at hu
  obtain ⟨hinherit, rfl, -, -⟩ | ⟨mode, path, fd, hfile, hopen, hstdout, -⟩ |
    ⟨readEnd, writeEnd, hpipe, hmake, -, -⟩ := resolveOutput_eq_ok hout
  · refine ⟨fun _ => hu, fun mode path hfile => ?_⟩
    cases hinherit.symm.trans hfile
  · refine ⟨fun hnone => absurd hfile (hnone mode path), fun mode' path' hfile' => ?_⟩
    cases hfile.symm.trans hfile'
    obtain ⟨c, hc, ⟨hsame, hnofile⟩ | ⟨number, id, hnumber, heffect⟩⟩ :=
      effect_of_openOutput hw hopen
    · exact ⟨fd, c, hstdout, hc, Or.inl ⟨hu.trans hsame, hnofile⟩⟩
    · exact ⟨fd, c, hstdout, hc, Or.inr ⟨number, id, hnumber, heffect.of_unchanged hu⟩⟩
  · refine ⟨fun _ => ?_, fun mode path hfile => ?_⟩
    · have hmade := unchanged_makePipe hw u index
      rw [hmake] at hmade
      exact hu.trans hmade
    · cases hpipe.symm.trans hfile

/-- Connecting a stage changes no file but the one that the stage writes, and none at all if it
fails. The file is emptied, kept or created as the stage says, and what is written into it later
goes where the way it was opened says. An input file was there before. It is opened first, so it is
its fault that is reported if both files cannot be opened. -/
theorem resolve_changes_only_output {σ η : Type} [Host σ Channel η] {world : σ → World}
    (hw : OnWorld world) (s : Shell σ Channel η) (index : Nat) (stage : Stage)
    (incoming : Option Nat) :
    (∀ f t, s.resolve index stage incoming = (.error f, t) →
      (world t.host).tree = (world s.host).tree) ∧
    (∀ path, stage.input = some path →
      (∀ e t, (s.closeAll incoming.toList).openInput path = (.error e, t) →
        s.resolve index stage incoming = (.error (.openInput path e), t)) ∧
      ∀ e, (World.openInput path (world (s.closeAll incoming.toList).host)).1 = .error e →
        ∃ e', (s.resolve index stage incoming).1 = .error (.openInput path e')) ∧
    ∀ r t, s.resolve index stage incoming = (.ok r, t) →
      (∀ path, stage.input = some path →
        ∃ i, (world s.host).tree.find (world s.host).directory path = .ok i) ∧
      (∀ i, (∀ mode path, stage.output = .file mode path →
          (world t.host).objectAt? path ≠ some i) →
        (world t.host).tree.file? i = (world s.host).tree.file? i) ∧
      ((∀ mode path, stage.output ≠ .file mode path) →
        (world t.host).tree = (world s.host).tree) ∧
      ∀ mode path, stage.output = .file mode path → ∃ fd c, r.wiring.stdout = .file fd ∧
        t.descriptors.get? fd = some c ∧
        ((world t.host).tree = (world s.host).tree ∧ (∀ number, c ≠ .file number) ∨
          ∃ number id, c = .file number ∧
            (world s.host).OutputEffect mode path number id (world t.host)) := by
  refine ⟨fun f t h => (unchanged_of_resolve_error hw h).tree, ?fault, ?connected⟩
  case fault =>
    intro path hpath
    refine ⟨fun e t h => resolve_eq_of_openInput_error hpath h, ?_⟩
    intro e he
    obtain ⟨e', t, herror⟩ := exists_error_of_openInput hw he
    exact ⟨e', by rw [resolve_eq_of_openInput_error hpath herror]⟩
  case connected =>
    intro r t h
    obtain ⟨hother, hfile⟩ := effect_of_resolve_ok hw h
    refine ⟨?input, ?frame, fun hnone => (hother hnone).tree, ?output⟩
    case input =>
      intro path hpath
      obtain ⟨u, hin, -⟩ := resolve_eq_ok h
      obtain ⟨path', fd, hpath', hopen, -⟩ | ⟨fd, hnone, -⟩ | ⟨hnone, -⟩ := resolveInput_eq_ok hin
      · cases hpath.symm.trans hpath'
        have hclosed := unchanged_closeAll hw s incoming.toList
        have hfind := exists_find_of_openInput hw hopen
        rwa [hclosed.tree, hclosed.directory] at hfind
      · cases hpath.symm.trans hnone
      · cases hpath.symm.trans hnone
    case frame =>
      intro i htarget
      rcases houtput : stage.output with _ | _ | ⟨mode, path⟩
      · rw [(hother (by simp [houtput])).tree]
      · rw [(hother (by simp [houtput])).tree]
      · obtain ⟨fd, c, -, -, ⟨hsame, -⟩ | ⟨number, id, -, heffect⟩⟩ := hfile mode path houtput
        · rw [hsame.tree]
        · refine heffect.others i ?_
          rintro rfl
          exact htarget mode path houtput heffect.leads
    case output =>
      intro mode path houtput
      obtain ⟨fd, c, hstdout, hc, hcases⟩ := hfile mode path houtput
      exact ⟨fd, c, hstdout, hc, hcases.imp_left fun hsame => ⟨hsame.1.tree, hsame.2⟩⟩

/-- A shell that carries a pipe over, in a directory with two files. -/
def carryingOver : Shell Machine Channel Nat where
  descriptors := ⟨[some .terminal, some .output, some .errors, some (.reader 0)]⟩
  host := .ofWorld
    { tree := ⟨#[.directory { parent := 0, entries := [("a", 1), ("b", 2)] },
        .file [98, 97] 0o644, .file [99] 0o600]⟩
      pipes := #[{}] }

def overwriter : Stage :=
  { argv := ["sort"], input := some "a", output := .file .truncate "b" }

/-- The shell when it has closed the pipe and opened the first file. -/
def reading : Shell Machine Channel Nat where
  descriptors := ⟨[some .terminal, some .output, some .errors, some (.file 0)]⟩
  host := { (carryingOver.close 3).host with
    world := { (carryingOver.close 3).host.world with files := #[{ node := 1 }] } }
  events := [.close 3, .openInput "a" (.ok 3)]

def connected : Shell Machine Channel Nat where
  descriptors := ⟨[some .terminal, some .output, some .errors, some (.file 0), some (.file 1)]⟩
  host := { reading.host with
    world := { reading.host.world with
      tree := reading.host.world.tree.truncate 2
      files := #[{ node := 1 }, World.openedFor 2 (World.outputAccess .truncate)] } }
  events := [.close 3, .openInput "a" (.ok 3), .openOutput .truncate "b" (.ok 4)]

theorem enters_carryingOver {name : String} (h : name.utf8ByteSize ≤ Path.maxNameSize) :
    carryingOver.host.world.tree.Enters 0 name { parent := 0, entries := [("a", 1), ("b", 2)] } :=
  ⟨rfl, rfl, h⟩

theorem openInput_carryingOver : (carryingOver.closeAll [3]).openInput "a" = (.ok 3, reading) := by
  have hlocate : carryingOver.host.world.tree.locate carryingOver.host.world.directory true "a" =
      .ok (.found 1) :=
    Tree.locate_of_child (by decide) (by decide) rfl (enters_carryingOver (by decide)) rfl rfl
  have hworld : (carryingOver.close 3).host.world.openInput "a" =
      (.ok (.file 0), reading.host.world) :=
    World.openAs_of_locate (by decide) hlocate rfl rfl rfl
      fun g hg => absurd hg (Array.not_mem_empty g)
  have hhost : Host.openInput "a" (carryingOver.closeAll [3]).host =
      (.ok (.file 0), reading.host) :=
    congrArg (fun q : _ × World => (q.1, { reading.host with world := q.2 })) hworld
  rw [openInput, hhost]
  rfl

theorem openOutput_reading : reading.openOutput .truncate "b" = (.ok 4, connected) := by
  have hlocate : reading.host.world.tree.locate reading.host.world.directory true "b" =
      .ok (.found 2) :=
    Tree.locate_of_child (by decide) (by decide) rfl (enters_carryingOver (by decide)) rfl rfl
  have hworld : reading.host.world.openOutput .truncate "b" =
      (.ok (.file 1), connected.host.world) :=
    World.openAs_of_locate (by decide) hlocate rfl rfl rfl (by simp [reading])
  have hhost : Host.openOutput .truncate "b" reading.host = (.ok (.file 1), connected.host) :=
    congrArg (fun q : _ × World => (q.1, { reading.host with world := q.2 })) hworld
  rw [openOutput, hhost]
  rfl

theorem resolve_carryingOver :
    carryingOver.resolve 1 overwriter (some 3) = (.ok ⟨⟨.file 3, .file 4⟩, none⟩, connected) := by
  simp only [resolve, resolveInput, overwriter, Option.toList, openInput_carryingOver,
    resolveOutput, openOutput_reading]

/-- One file is read, another one is emptied with its permissions kept, and the pipe that was
carried over is closed. -/
theorem resolve_changes_only_output_overwriting :
    OnWorld Machine.world ∧
    ∃ t, carryingOver.resolve 1 overwriter (some 3) = (.ok ⟨⟨.file 3, .file 4⟩, none⟩, t) ∧
      t.host.world.tree.file? 1 = some ([98, 97], 0o644) ∧
      t.host.world.tree.file? 2 = some ([], 0o600) ∧
      ∃ number id,
        carryingOver.host.world.OutputEffect .truncate "b" number id t.host.world := by
  obtain ⟨-, -, -, hfile⟩ := (resolve_changes_only_output Machine.onWorld_world carryingOver 1
    overwriter (some 3)).2.2 _ _ resolve_carryingOver
  refine ⟨Machine.onWorld_world, _, resolve_carryingOver, rfl, rfl, ?_⟩
  obtain ⟨fd, c, hfd, hc, ⟨-, hnofile⟩ | ⟨number, id, -, heffect⟩⟩ := hfile .truncate "b" rfl
  · cases hfd
    cases hc
    exact absurd rfl (hnofile 1)
  · exact ⟨number, id, heffect⟩

end Shell

end ShellPipeline
