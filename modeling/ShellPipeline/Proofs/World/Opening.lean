import ShellPipeline.Proofs.World.Walk
import ShellPipeline.World.Requests

/-!
# What opening a file changes

Opening a file for reading changes no object. Opening one for writing changes the object that the
path leads to, which is created if the path leads nowhere. A path may also lead to a stand-in for a
standard stream of the shell; then it is the object behind that stream that is opened again.
-/

namespace ShellPipeline

def Tree.file? (t : Tree) (id : Nat) : Option (Bytes × Nat) :=
  match t.node? id with
  | some (.file content mode) => some (content, mode)
  | _ => none

theorem Tree.file?_eq_some_iff {t : Tree} {id bits : Nat} {content : Bytes} :
    t.file? id = some (content, bits) ↔ t.node? id = some (.file content bits) := by
  unfold Tree.file?
  split <;> simp_all

/-- A path of a single name leads to the file that the directory has under it. -/
theorem Tree.locate_of_child {t : Tree} {dir id bits : Nat} {path name : String} {d : Directory}
    {content : Bytes} {creating : Bool} (hpath : path ≠ "")
    (hsize : path.utf8ByteSize ≤ Path.maxSize) (hname : Path.ofString path = ⟨false, [name], false⟩)
    (henters : t.Enters dir name d) (hchild : child? dir d name = some id)
    (hfile : t.file? id = some (content, bits)) :
    t.locate dir creating path = .ok (.found id) := by
  rw [Tree.file?_eq_some_iff] at hfile
  rw [locate, if_neg hpath, if_neg (Nat.not_lt.mpr hsize), hname]
  simp [walk, henters.directory, henters.permitted, Nat.not_lt.mpr henters.short, hchild, hfile]

theorem Tree.file?_congr {t t' : Tree} {id : Nat} (h : t'.node? id = t.node? id) :
    t'.file? id = t.file? id := by
  rw [Tree.file?, h, Tree.file?]

/-- Creating a file changes no other one. -/
theorem Tree.Created.file?_ne {t t' : Tree} {above mode other : Nat} {name : String}
    (h : t.Created above name mode t') (hother : other ≠ t.nodes.size) :
    t'.file? other = t.file? other := by
  by_cases habove : other = above
  · -- the directory that has the new entry is no file before or after
    subst habove
    obtain ⟨d, hd, -, hd'⟩ := h.parent
    rw [Tree.directory?_eq_some_iff] at hd hd'
    simp [Tree.file?, hd, hd']
  · exact Tree.file?_congr (h.others other habove hother)

namespace World

variable {w w' : World} {c : Channel} {e : Errno} {f : PathFault} {id dir mask number : Nat}
  {new : Bool} {path : String} {how : Access} {held : Nat → Option Channel} {mode : WriteMode}

def object? (w : World) : Channel → Option Nat
  | .file number => w.files[number]?.map OpenFile.node
  | _ => none

def objectAt? (w : World) (path : String) : Option Nat :=
  match w.tree.find w.directory path with
  | .error _ => none
  | .ok id =>
    match w.tree.node? id with
    | some (.device (.descriptor fd)) => (w.standardStream fd).bind w.object?
    | _ => some id

theorem objectAt?_of_find (h : w.tree.find w.directory path = .ok id)
    (hstandIn : ∀ fd, w.tree.node? id ≠ some (.device (.descriptor fd))) :
    w.objectAt? path = some id := by
  rw [objectAt?, h]
  dsimp only
  split
  · exact absurd ‹_› (hstandIn _)
  · rfl

/-- The shell looks up paths in the same way and creates files with the same permission bits. -/
structure Alike (w w' : World) : Prop where
  directory : w'.directory = w.directory
  mask : w'.mask = w.mask
  input : w'.input = w.input

theorem Alike.refl (w : World) : w.Alike w :=
  ⟨rfl, rfl, rfl⟩

theorem Alike.trans {w'' : World} (h : w.Alike w') (h' : w'.Alike w'') : w.Alike w'' :=
  ⟨h'.directory.trans h.directory, h'.mask.trans h.mask, h'.input.trans h.input⟩

/-- No object of the tree was changed. -/
structure Unchanged (w w' : World) : Prop extends Alike w w' where
  tree : w'.tree = w.tree

theorem Unchanged.refl (w : World) : w.Unchanged w :=
  ⟨.refl w, rfl⟩

theorem Unchanged.trans {w'' : World} (h : w.Unchanged w') (h' : w'.Unchanged w'') :
    w.Unchanged w'' :=
  ⟨h.toAlike.trans h'.toAlike, h'.tree.trans h.tree⟩

theorem Alike.standardStream (h : w.Alike w') : w'.standardStream = w.standardStream := by
  funext fd
  unfold World.standardStream
  rw [h.input]

/-! ## Open files -/

/-- Another file takes the place of one without holders, or a place of its own. -/
theorem addFile_eq (w : World) (f : OpenFile) :
    ∃ number files, w.addFile f = (.file number, { w with files }) ∧ files[number]? = some f ∧
      ∀ other g, w.files[other]? = some g →
        other ≠ number ∧ files[other]? = some g ∨ other = number ∧ g.holders = 0 := by
  unfold addFile
  split
  · refine ⟨_, _, rfl, by simp, ?_⟩
    intro other g hg
    have hlt := (Array.getElem?_eq_some_iff.mp hg).1
    exact Or.inl ⟨Nat.ne_of_lt hlt, by rw [Array.getElem?_push, if_neg (Nat.ne_of_lt hlt), hg]⟩
  · next number hfree =>
      obtain ⟨hlt, hholders, -⟩ := Array.findIdx?_eq_some_iff_getElem.mp hfree
      refine ⟨_, _, rfl, by simp [hlt], ?_⟩
      intro other g hg
      by_cases hother : other = number
      · subst hother
        obtain rfl : w.files[other] = g := by simpa [hlt] using hg
        exact Or.inr ⟨rfl, by simpa using hholders⟩
      · exact Or.inl ⟨hother, by rw [Array.getElem?_setIfInBounds_ne (Ne.symm hother), hg]⟩

theorem addFile_of_held (h : ∀ g ∈ w.files, g.holders ≠ 0) (f : OpenFile) :
    w.addFile f = (.file w.files.size, { w with files := w.files.push f }) := by
  have hnone : w.files.findIdx? (fun g => g.holders = 0) = none := by
    simpa [Array.findIdx?_eq_none_iff] using h
  rw [addFile, hnone]

def treeFor (w : World) (id : Nat) (how : Access) : Tree :=
  if how.truncates then w.tree.truncate id else w.tree

def openedFor (id : Nat) (how : Access) : OpenFile :=
  { node := id, reads := how.reads, writes := how.writes, appends := how.appends }

/-- An object of the tree was opened under a number. -/
structure OpensAs (w : World) (id : Nat) (how : Access) (number : Nat) (w' : World) : Prop where
  eq : ∃ files, w' = { w with tree := w.treeFor id how, files }
  here : w'.files[number]? = some (openedFor id how)
  others : ∀ other g, w.files[other]? = some g →
    other ≠ number ∧ w'.files[other]? = some g ∨ other = number ∧ g.holders = 0

/-- An object is opened under a number of its own, at its beginning. -/
theorem openFound_eq_ok (h : w.openFound id new how = (.ok c, w')) :
    ∃ number, c = .file number ∧ w.OpensAs id how number w' := by
  unfold openFound at h
  rcases hnode : w.tree.node? id with _ | node <;> simp only [hnode] at h
  · cases h
  · split at h
    · cases h
    · split at h
      · cases h
      · obtain ⟨number, files, hadd, hhere, hothers⟩ :=
          addFile_eq { w with tree := w.treeFor id how } (openedFor id how)
        simp only [treeFor, openedFor] at hadd
        rw [hadd] at h
        cases h
        exact ⟨number, rfl, ⟨files, rfl⟩, hhere, hothers⟩

theorem openFound_eq_error (h : w.openFound id new how = (.error e, w')) : w' = w := by
  unfold openFound at h
  rcases hnode : w.tree.node? id with _ | node <;> simp only [hnode] at h
  · cases h
    rfl
  · split_ifs at h <;> cases h <;> rfl

/-! ## Objects behind streams -/

/-- A channel that is no object of the tree was opened once more. -/
structure Rejoins (w : World) (c : Channel) (w' : World) : Prop extends Unchanged w w' where
  noFile : ∀ number, c ≠ .file number
  files : w'.files = w.files

theorem unchanged_acquire (w : World) (c : Channel) : w.Unchanged (w.acquire c) := by
  cases c <;> exact ⟨⟨rfl, rfl, rfl⟩, rfl⟩

theorem unchanged_release (w : World) (c : Channel) : w.Unchanged (w.release c) := by
  cases c <;> exact ⟨⟨rfl, rfl, rfl⟩, rfl⟩

theorem rejoins_reopenPipe {pipe : Nat} (h : w.reopenPipe pipe how = (.ok c, w')) :
    w.Rejoins c w' := by
  unfold reopenPipe at h
  cases hwrites : how.writes <;> simp only [hwrites] at h <;> cases h <;>
    exact ⟨unchanged_acquire w _, by simp, rfl⟩

theorem reopen_eq_ok {c' : Channel} (h : w.reopen c how = (.ok c', w')) :
    w.Rejoins c' w' ∨
      ∃ id number, w.object? c = some id ∧ c' = .file number ∧ w.OpensAs id how number w' := by
  unfold reopen at h
  split at h
  · next number =>
      rcases hfile : w.files[number]? with _ | f <;> simp only [hfile] at h
      · cases h
      · obtain ⟨number', hc', hopens⟩ := openFound_eq_ok h
        exact Or.inr ⟨f.node, number', by simp [object?, hfile], hc', hopens⟩
  · exact Or.inl (rejoins_reopenPipe h)
  · exact Or.inl (rejoins_reopenPipe h)
  · next hfile _ _ =>
      cases h
      exact Or.inl ⟨.refl w, hfile, rfl⟩

theorem reopen_eq_error (h : w.reopen c how = (.error e, w')) : w' = w := by
  unfold reopen at h
  split at h
  · split at h
    · cases h
      rfl
    · exact openFound_eq_error h
  · cases h
  · cases h
  · cases h

/-! ## Paths -/

/-- A path leads to an object that was there, or to a new one under the name that was free. -/
theorem openNode_eq_ok (h : w.openNode dir mask path how = .ok (id, new, w')) :
    (new = false ∧ w' = w ∧ w.tree.find dir path = .ok id) ∨
      ∃ bits tree above name, how.creates = some bits ∧ new = true ∧ w' = { w with tree } ∧
        id = w.tree.nodes.size ∧ w.tree.find dir path = .error .noEntry ∧
        tree.find dir path = .ok id ∧ w.tree.Created above name (unmasked bits mask) tree := by
  have hfound : ∀ {id : Nat} {new : Bool} {w' : World},
      (w.tree.find dir path).map (fun id => (id, false, w)) = .ok (id, new, w') →
      new = false ∧ w' = w ∧ w.tree.find dir path = .ok id := by
    intro id new w' h
    rcases hfind : w.tree.find dir path with e | other <;> rw [hfind] at h <;> cases h
    exact ⟨rfl, rfl, rfl⟩
  unfold openNode at h
  rcases hcreates : how.creates with _ | bits <;> simp only [hcreates] at h
  · exact Or.inl (hfound h)
  · rcases houtput : w.tree.findOutput dir path (unmasked bits mask) with
      e | ⟨other, new', tree⟩ <;> simp only [houtput] at h
    · cases h
    · cases new' with
      | false =>
          dsimp only at h
          split_ifs at h
          exact Or.inl (hfound h)
      | true =>
          cases h
          obtain ⟨hnew, -⟩ | ⟨-, hid, hnone, hfind, above, name, hcreated⟩ :=
            Tree.findOutput_eq_ok houtput
          · cases hnew
          · exact Or.inr ⟨bits, tree, above, name, rfl, rfl, rfl, hid, hnone, hfind, hcreated⟩

/-- A path was opened, and then the holder of the channels `held` holds one more. -/
inductive OpensPath (w : World) (held : Nat → Option Channel) (dir mask : Nat) (path : String)
    (how : Access) : Channel → World → Prop
  | stream {id fd : Nat} {c' c : Channel} {w' : World} (leads : w.tree.find dir path = .ok id)
      (standIn : w.tree.node? id = some (.device (.descriptor fd))) (holds : held fd = some c')
      (rejoins : w.Rejoins c w') : OpensPath w held dir mask path how c w'
  | behind {id fd id' number : Nat} {c' : Channel} {w' : World}
      (leads : w.tree.find dir path = .ok id)
      (standIn : w.tree.node? id = some (.device (.descriptor fd))) (holds : held fd = some c')
      (object : w.object? c' = some id') (opens : w.OpensAs id' how number w') :
      OpensPath w held dir mask path how (.file number) w'
  | existing {id number : Nat} {w' : World} (leads : w.tree.find dir path = .ok id)
      (noStandIn : ∀ fd, w.tree.node? id ≠ some (.device (.descriptor fd)))
      (opens : w.OpensAs id how number w') : OpensPath w held dir mask path how (.file number) w'
  | created {bits above number : Nat} {name : String} {tree : Tree} {w' : World}
      (creates : how.creates = some bits) (leads : w.tree.find dir path = .error .noEntry)
      (created : w.tree.Created above name (unmasked bits mask) tree)
      (leadsNow : tree.find dir path = .ok w.tree.nodes.size)
      (opens : ({ w with tree } : World).OpensAs w.tree.nodes.size how number w') :
      OpensPath w held dir mask path how (.file number) w'

theorem opensPath_of_openPath (h : w.openPath held dir mask path how = (.ok c, w')) :
    w.OpensPath held dir mask path how c w' := by
  unfold openPath at h
  rcases hnode : w.openNode dir mask path how with e | ⟨id, new, u⟩ <;> simp only [hnode] at h
  · cases h
  · obtain ⟨-, rfl, hfind⟩ |
      ⟨bits, tree, above, name, hcreates, -, rfl, rfl, hnone, hfind, hcreated⟩ :=
      openNode_eq_ok hnode
    · split at h
      · next fd hstandIn =>
          rcases hheld : held fd with _ | c' <;> simp only [hheld] at h
          · cases h
          · rcases reopen_eq_ok h with hrejoins | ⟨id', number, hobject, rfl, hopens⟩
            · exact .stream hfind hstandIn hheld hrejoins
            · exact .behind hfind hstandIn hheld hobject hopens
      · next hstandIn =>
          obtain ⟨number, rfl, hopens⟩ := openFound_eq_ok h
          exact .existing hfind (fun fd => hstandIn fd) hopens
    · split at h
      · next fd hstandIn => cases hcreated.file.symm.trans hstandIn
      · obtain ⟨number, rfl, hopens⟩ := openFound_eq_ok h
        exact .created hcreates hnone hcreated hfind hopens

/-- A file that has just been created can be opened, whatever its permission bits. -/
theorem openFound_ne_error {content : Bytes} {bits : Nat}
    (hfile : w.tree.node? id = some (.file content bits)) :
    w.openFound id true how ≠ (.error e, w') := by
  have hdirectory : w.tree.directory? id = none := by
    simp [Tree.directory?, hfile]
  intro h
  simp [openFound, hfile, hdirectory] at h

/-- A path that is not opened changes nothing. -/
theorem openPath_eq_error (h : w.openPath held dir mask path how = (.error e, w')) : w' = w := by
  unfold openPath at h
  rcases hnode : w.openNode dir mask path how with e' | ⟨id, new, u⟩ <;> simp only [hnode] at h
  · cases h
    rfl
  · obtain ⟨-, rfl, -⟩ | ⟨bits, tree, above, name, -, rfl, rfl, rfl, -, -, hcreated⟩ :=
      openNode_eq_ok hnode
    · split at h
      · split at h
        · cases h
          rfl
        · exact reopen_eq_error h
      · exact openFound_eq_error h
    · split at h
      · next fd hstandIn => cases hcreated.file.symm.trans hstandIn
      · exact absurd h (openFound_ne_error hcreated.file)

/-! ## Requests of the shell -/

theorem openAs_eq_ok (h : w.openAs path how = (.ok c, w')) :
    w.OpensPath w.standardStream w.directory w.mask path how c w' := by
  unfold openAs at h
  rcases hrefusal : w.refusal? path with _ | fault <;> simp only [hrefusal] at h
  · rcases hopen : w.openPath w.standardStream w.directory w.mask path how with ⟨e | c', u⟩ <;>
      rw [hopen] at h <;> cases h
    exact opensPath_of_openPath hopen
  · cases h

theorem openAs_eq_error (h : w.openAs path how = (.error f, w')) : w' = w := by
  unfold openAs at h
  rcases hrefusal : w.refusal? path with _ | fault <;> simp only [hrefusal] at h
  · rcases hopen : w.openPath w.standardStream w.directory w.mask path how with ⟨e | c', u⟩ <;>
      rw [hopen] at h <;> cases h
    exact openPath_eq_error hopen
  · cases h
    rfl

/-- A file that may be opened is opened under a new number if all numbers are taken. -/
theorem openAs_of_locate {bits : Nat} {content : Bytes} (hrefusal : w.refusal? path = none)
    (hlocate : w.tree.locate w.directory true path = .ok (.found id))
    (hfile : w.tree.file? id = some (content, bits)) (hallows : allows bits how = true)
    (hshared : how.exclusive = false) (hheld : ∀ g ∈ w.files, g.holders ≠ 0) :
    w.openAs path how = (.ok (.file w.files.size),
      { w with tree := w.treeFor id how, files := w.files.push (openedFor id how) }) := by
  have hfind : w.tree.find w.directory path = .ok id :=
    Tree.find_eq_ok_iff.mpr (Tree.locate_of_creating hlocate)
  have hnode := Tree.file?_eq_some_iff.mp hfile
  have hdirectory : w.tree.directory? id = none := by simp [Tree.directory?, hnode]
  have hopen : w.openNode w.directory w.mask path how = .ok (id, false, w) := by
    unfold openNode
    rcases how.creates with _ | mode
    · simp [hfind, Except.map]
    · simp [Tree.findOutput, hlocate, hdirectory, hshared, hfind, Except.map]
  have hbits : (Node.file content bits).mode = bits := rfl
  have hadd := addFile_of_held (w := { w with tree := w.treeFor id how }) hheld (openedFor id how)
  have hopened : w.openFound id false how = (.ok (.file w.files.size),
      { w with tree := w.treeFor id how, files := w.files.push (openedFor id how) }) := by
    simp only [openFound, hnode, hdirectory, hbits, hallows]
    exact congrArg (fun q : Channel × World => (Except.ok q.1, q.2)) hadd
  simp only [openAs, hrefusal, openPath, hopen, hnode, hopened]
  rfl

theorem OpensAs.alike (h : w.OpensAs id how number w') : w.Alike w' := by
  obtain ⟨files, rfl⟩ := h.eq
  exact ⟨rfl, rfl, rfl⟩

theorem OpensAs.tree_eq (h : w.OpensAs id how number w') : w'.tree = w.treeFor id how := by
  obtain ⟨files, rfl⟩ := h.eq
  rfl

/-- Opening a file for reading changes no object, and the file was there before. -/
theorem openInput_eq_ok (h : World.openInput path w = (.ok c, w')) :
    w.Unchanged w' ∧ ∃ id, w.tree.find w.directory path = .ok id := by
  cases openAs_eq_ok h with
  | stream leads _ _ rejoins => exact ⟨rejoins.toUnchanged, _, leads⟩
  | behind leads _ _ _ opens => exact ⟨⟨opens.alike, opens.tree_eq⟩, _, leads⟩
  | existing leads _ opens => exact ⟨⟨opens.alike, opens.tree_eq⟩, _, leads⟩
  | created creates => cases creates

def outputAccess (mode : WriteMode) : Access :=
  { writes := true, creates := some createdMode, truncates := mode == WriteMode.truncate,
    appends := mode == WriteMode.append }

theorem grows_treeFor (w : World) (id : Nat) (how : Access) : w.tree.Grows (w.treeFor id how) := by
  unfold treeFor
  split
  · exact Tree.grows_truncate w.tree id
  · exact .refl w.tree

theorem OpensAs.object? (h : w.OpensAs id how number w') (hc : w.object? c = some id) :
    w'.object? c = some id := by
  cases c with
  | file other =>
      obtain ⟨g, hg, rfl⟩ := Option.map_eq_some_iff.mp hc
      rcases h.others other g hg with ⟨-, hsame⟩ | ⟨rfl, -⟩
      · simp [World.object?, hsame]
      · simp [World.object?, h.here, openedFor]
  | _ => cases hc

/-- A path was opened for writing under a number, and it leads to the object. -/
structure Written (w : World) (mode : WriteMode) (path : String) (number id : Nat) (w' : World) :
    Prop where
  alike : w.Alike w'
  leads : w'.objectAt? path = some id
  here : w'.files[number]? = some (openedFor id (outputAccess mode))
  existing : ∀ i, w.tree.find w.directory path = .ok i →
    w'.tree = w.treeFor id (outputAccess mode)
  created : ∀ e, w.tree.find w.directory path = .error e → id = w.tree.nodes.size ∧
    ∃ above name, w.tree.Created above name (unmasked createdMode w.mask) w'.tree

/-- An output that was opened is a stream once more, or a file that is written under a number. -/
theorem openOutput_eq_ok (h : World.openOutput mode path w = (.ok c, w')) :
    w.Rejoins c w' ∨ ∃ number id, c = .file number ∧ w.Written mode path number id w' := by
  have hgrows : ∀ {id number : Nat} {w w' : World}, w.OpensAs id (outputAccess mode) number w' →
      w.tree.Grows w'.tree := by
    intro id number w w' hopens
    rw [hopens.tree_eq]
    exact grows_treeFor w id _
  have hopened : w.OpensPath w.standardStream w.directory w.mask path (outputAccess mode) c w' :=
    openAs_eq_ok h
  cases hopened with
  | stream _ _ _ rejoins => exact Or.inl rejoins
  | @behind id fd id' number c' w' leads standIn holds object opens =>
      have hfind := Tree.find_of_grows (hgrows opens) leads
      have hdevice := (hgrows opens).device_iff.mpr standIn
      have hobject : w'.objectAt? path = some id' := by
        simp [objectAt?, opens.alike.directory, hfind, hdevice, opens.alike.standardStream, holds,
          opens.object? object]
      refine Or.inr ⟨number, id', rfl, opens.alike, hobject, opens.here, ?_, ?_⟩
      · exact fun _ _ => opens.tree_eq
      · intro e herror
        cases leads.symm.trans herror
  | @existing id number w' leads noStandIn opens =>
      have hfind := Tree.find_of_grows (hgrows opens) leads
      rw [← opens.alike.directory] at hfind
      have hobject : w'.objectAt? path = some id :=
        objectAt?_of_find hfind fun fd hdevice =>
          noStandIn fd ((hgrows opens).device_iff.mp hdevice)
      refine Or.inr ⟨number, id, rfl, opens.alike, hobject, opens.here, ?_, ?_⟩
      · exact fun _ _ => opens.tree_eq
      · intro e herror
        cases leads.symm.trans herror
  | @created bits above number name tree w' creates leads created leadsNow opens =>
      obtain rfl : createdMode = bits := Option.some.inj creates
      have htree : w'.tree = tree := by
        rw [opens.tree_eq, treeFor]
        split
        · exact Tree.truncate_eq_self_of_empty created.file
        · rfl
      have hobject : w'.objectAt? path = some w.tree.nodes.size := by
        rw [← htree] at leadsNow created
        rw [← opens.alike.directory] at leadsNow
        exact objectAt?_of_find leadsNow (by simp [created.file])
      have halike : w.Alike w' :=
        ⟨opens.alike.directory, opens.alike.mask, opens.alike.input⟩
      refine Or.inr ⟨number, _, rfl, halike, hobject, opens.here, ?_, ?_⟩
      · intro i hi
        cases leads.symm.trans hi
      · intro e _
        exact ⟨rfl, above, name, htree ▸ created⟩

end World

end ShellPipeline
