import ShellPipeline.Proofs.World.Opening

/-!
# Files that are held

As long as somebody holds an open file it stays the same open object, whatever else is done to the
world: its place is not given to another one, and it appends or does not. Its position moves only
when it is read, written or sought itself. So what is written through it later goes where the way it
was opened says.
-/

namespace ShellPipeline

/-- The same open object. It is at another position only if it was used. -/
structure OpenFile.StaysAs (used : Bool) (f g : OpenFile) : Prop where
  node : g.node = f.node
  writes : g.writes = f.writes
  appends : g.appends = f.appends
  offset : used = false → g.offset = f.offset

namespace World

def Holds (w : World) (number : Nat) : Prop :=
  ∃ f, w.files[number]? = some f ∧ f.holders ≠ 0

/-- What may be done to the world while an open file is held, and whether that uses the file. The
tree, the pipes and the streams may change in any way. -/
inductive Moves (number : Nat) : Bool → World → World → Prop
  | write (w : World) (c : Channel) (bytes : Bytes) :
      Moves number (c = .file number) w (w.write c bytes).2
  | read (w : World) (c : Channel) (count : Nat) :
      Moves number (c = .file number) w (w.read c count).2
  | seek (w : World) (c : Channel) (offset : Int) (origin : Origin) :
      Moves number (c = .file number) w (w.seek c offset origin).2
  | openPath (w : World) (held : Nat → Option Channel) (dir mask : Nat) (path : String)
      (how : Access) : Moves number false w (w.openPath held dir mask path how).2
  | acquire (w : World) (c : Channel) : Moves number false w (w.acquire c)
  | release (w : World) (c : Channel) (held : (w.release c).Holds number) :
      Moves number false w (w.release c)
  | elsewhere {w w' : World} (files : w'.files = w.files) : Moves number false w w'

/-- The world some time after, during which an open file was held. -/
inductive Later (number : Nat) : Bool → World → World → Prop
  | now (w : World) : Later number false w w
  | move {used used' : Bool} {u v w : World} (before : Later number used u v)
      (move : Moves number used' v w) : Later number (used || used') u w

/-! ## Positions of open files -/

/-- At most the position has changed in the open file that a channel stands for. -/
def Repositions (c : Channel) (w w' : World) : Prop :=
  w'.files = w.files ∨ ∃ number f offset, c = .file number ∧ w.files[number]? = some f ∧
    w'.files = w.files.setIfInBounds number { f with offset }

theorem repositions_write (w : World) (c : Channel) (bytes : Bytes) :
    w.Repositions c (w.write c bytes).2 := by
  cases c with
  | writer pipe =>
      simp only [write]
      split
      · exact Or.inl rfl
      · split <;> exact Or.inl rfl
  | file number =>
      simp only [write, writeFile]
      split
      · exact Or.inl rfl
      · next f hf =>
          split
          · exact Or.inl rfl
          · split
            · exact Or.inr ⟨number, f, _, rfl, hf, rfl⟩
            · exact Or.inl rfl
            · exact Or.inl rfl
  | _ => exact Or.inl rfl

theorem repositions_read (w : World) (c : Channel) (count : Nat) :
    w.Repositions c (w.read c count).2 := by
  cases c with
  | reader pipe =>
      simp only [read]
      split <;> exact Or.inl rfl
  | file number =>
      simp only [read, readFile]
      split
      · exact Or.inl rfl
      · next f hf =>
          split
          · exact Or.inl rfl
          · split
            · exact Or.inl rfl
            · exact Or.inl rfl
            · exact Or.inr ⟨number, f, _, rfl, hf, rfl⟩
  | _ => exact Or.inl rfl

theorem repositions_seek (w : World) (c : Channel) (offset : Int) (origin : Origin) :
    w.Repositions c (w.seek c offset origin).2 := by
  cases c with
  | file number =>
      simp only [seek]
      split
      · exact Or.inl rfl
      · next f hf =>
          split_ifs
          · exact Or.inl rfl
          · exact Or.inr ⟨number, f, _, rfl, hf, rfl⟩
  | _ => exact Or.inl rfl

end World

/-! ## What a held file keeps -/

namespace OpenFile.StaysAs

variable {f g h : OpenFile} {used used' : Bool}

theorem refl (used : Bool) (f : OpenFile) : f.StaysAs used f :=
  ⟨rfl, rfl, rfl, fun _ => rfl⟩

theorem trans (hfg : f.StaysAs used g) (hgh : g.StaysAs used' h) : f.StaysAs (used || used') h where
  node := hgh.node.trans hfg.node
  writes := hgh.writes.trans hfg.writes
  appends := hgh.appends.trans hfg.appends
  offset := by
    intro hunused
    obtain ⟨hused, hused'⟩ := Bool.or_eq_false_iff.mp hunused
    exact (hgh.offset hused').trans (hfg.offset hused)

end OpenFile.StaysAs

namespace World

variable {w w' : World} {c : Channel} {number other : Nat} {f : OpenFile} {used : Bool}
  {content : Bytes} {bits : Nat}

/-- An open file is held, and it is the one that it was. -/
def Keeps (w : World) (number : Nat) (used : Bool) (f : OpenFile) : Prop :=
  ∃ g, w.files[number]? = some g ∧ g.holders ≠ 0 ∧ f.StaysAs used g

theorem keeps_of_files (hfiles : w'.files = w.files) (hf : w.files[number]? = some f)
    (hheld : f.holders ≠ 0) (used : Bool) : w'.Keeps number used f :=
  ⟨f, hfiles ▸ hf, hheld, .refl used f⟩

/-- Using one open file leaves every other one at its position. -/
theorem Repositions.keeps (h : w.Repositions c w') (hf : w.files[number]? = some f)
    (hheld : f.holders ≠ 0) : w'.Keeps number (c = .file number) f := by
  rcases h with hfiles | ⟨other, g, offset, rfl, hg, hfiles⟩
  · exact keeps_of_files hfiles hf hheld _
  · by_cases hsame : other = number
    · subst hsame
      obtain rfl := Option.some.inj (hf.symm.trans hg)
      have hlt := (Array.getElem?_eq_some_iff.mp hf).1
      exact ⟨{ f with offset }, by simp [hfiles, hlt], hheld, rfl, rfl, rfl, by simp⟩
    · exact ⟨f, by rw [hfiles, Array.getElem?_setIfInBounds_ne hsame, hf], hheld, .refl _ f⟩

theorem OpensAs.keeps {id : Nat} {how : Access} (h : w.OpensAs id how other w')
    (hf : w.files[number]? = some f) (hheld : f.holders ≠ 0) (used : Bool) :
    w'.Keeps number used f := by
  rcases h.others number f hf with ⟨-, hsame⟩ | ⟨-, hnone⟩
  · exact ⟨f, hsame, hheld, .refl used f⟩
  · exact absurd hnone hheld

theorem keeps_openPath (held : Nat → Option Channel) (dir mask : Nat) (path : String)
    (how : Access) (hf : w.files[number]? = some f) (hheld : f.holders ≠ 0) :
    (w.openPath held dir mask path how).2.Keeps number false f := by
  rcases hopen : w.openPath held dir mask path how with ⟨e | c, w'⟩
  · obtain rfl := openPath_eq_error hopen
    exact keeps_of_files rfl hf hheld false
  · cases opensPath_of_openPath hopen with
    | stream _ _ _ rejoins => exact keeps_of_files rejoins.files hf hheld false
    | behind _ _ _ _ opens => exact opens.keeps hf hheld false
    | existing _ _ opens => exact opens.keeps hf hheld false
    | created _ _ _ _ opens => exact opens.keeps hf hheld false

theorem keeps_acquire (c : Channel) (hf : w.files[number]? = some f) (hheld : f.holders ≠ 0) :
    (w.acquire c).Keeps number false f := by
  cases c with
  | file other =>
      by_cases hsame : other = number
      · subst hsame
        refine ⟨{ f with holders := f.holders + 1 }, ?_, Nat.succ_ne_zero _, rfl, rfl, rfl,
          fun _ => rfl⟩
        simp [acquire, updateFile, Array.getElem?_modify, hf]
      · refine ⟨f, ?_, hheld, .refl false f⟩
        simp [acquire, updateFile, Array.getElem?_modify, hsame, hf]
  | _ => exact keeps_of_files rfl hf hheld false

/-- Whoever gives a channel back leaves a file to its other holders. -/
theorem keeps_release (c : Channel) (hf : w.files[number]? = some f) (hheld : f.holders ≠ 0)
    (hothers : (w.release c).Holds number) : (w.release c).Keeps number false f := by
  cases c with
  | file other =>
      obtain ⟨g, hg, hgheld⟩ := hothers
      refine ⟨g, hg, hgheld, ?_⟩
      simp only [release, updateFile, Array.getElem?_modify, hf] at hg
      split_ifs at hg <;> cases hg <;> exact ⟨rfl, rfl, rfl, fun _ => rfl⟩
  | _ => exact keeps_of_files rfl hf hheld false

/-- An open file that is held survives whatever else is done. -/
theorem Moves.keeps (h : Moves number used w w') (hf : w.files[number]? = some f)
    (hheld : f.holders ≠ 0) : w'.Keeps number used f := by
  cases h with
  | write _ c bytes => exact (repositions_write w c bytes).keeps hf hheld
  | read _ c count => exact (repositions_read w c count).keeps hf hheld
  | seek _ c offset origin => exact (repositions_seek w c offset origin).keeps hf hheld
  | openPath _ held dir mask path how => exact keeps_openPath held dir mask path how hf hheld
  | acquire _ c => exact keeps_acquire c hf hheld
  | release _ c held => exact keeps_release c hf hheld held
  | elsewhere files => exact keeps_of_files files hf hheld false

theorem Later.keeps (h : Later number used w w') (hf : w.files[number]? = some f)
    (hheld : f.holders ≠ 0) : w'.Keeps number used f := by
  induction h with
  | now w => exact ⟨f, hf, hheld, .refl false f⟩
  | move _ move ih =>
      obtain ⟨g, hg, hgheld, hfg⟩ := ih hf
      obtain ⟨g', hg', hg'held, hgg'⟩ := move.keeps hg hgheld
      exact ⟨g', hg', hg'held, hfg.trans hgg'⟩

/-! ## Writing later -/

/-- Writing through an open file gives an object a content, and touches nothing else in the tree. -/
structure Fills (w : World) (number : Nat) (bytes : Bytes) (id : Nat) (content : Bytes)
    (bits : Nat) : Prop where
  accepted : (w.write (.file number) bytes).1 = .ok ()
  content : (w.write (.file number) bytes).2.tree.file? id = some (content, bits)
  others : ∀ other, other ≠ id →
    (w.write (.file number) bytes).2.tree.node? other = w.tree.node? other

/-- Bytes are written at the position of an open file, or at the end of one that appends. -/
theorem fills (hf : w.files[number]? = some f) (hwrites : f.writes = true)
    (hfile : w.tree.file? f.node = some (content, bits)) (bytes : Bytes) :
    w.Fills number bytes f.node
      (splice content (if f.appends then content.length else f.offset) bytes) bits := by
  have hnode := Tree.file?_eq_some_iff.mp hfile
  obtain ⟨files, hwrite⟩ : ∃ files, w.write (.file number) bytes =
      (.ok (), { w with
        tree := w.tree.setNode f.node (.file (splice content
          (if f.appends then content.length else f.offset) bytes) bits)
        files }) := by
    simp [write, writeFile, hf, hwrites, hnode]
  refine ⟨by rw [hwrite], ?_, ?_⟩
  · rw [hwrite, Tree.file?_eq_some_iff]
    exact Tree.node?_setNode_self (Tree.lt_size_of_node? hnode)
  · intro other hother
    rw [hwrite]
    exact Tree.node?_setNode_ne hother

/-- What is written through an output goes after the content that the file has by then, if the
output was opened for that; otherwise what is written first goes to the beginning. -/
theorem Later.fills {id : Nat} {mode : WriteMode} (h : Later number used w w')
    (hf : w.files[number]? = some (openedFor id (outputAccess mode)))
    (hfile : w'.tree.file? id = some (content, bits)) (bytes : Bytes) :
    (mode = .append → w'.Fills number bytes id (content ++ bytes) bits) ∧
      (mode = .truncate → used = false →
        w'.Fills number bytes id (bytes ++ content.drop bytes.length) bits) := by
  obtain ⟨g, hg, -, hkept⟩ := h.keeps hf (Nat.succ_ne_zero 0)
  have hnode : g.node = id := hkept.node
  have hfills := World.fills hg hkept.writes (hnode ▸ hfile) bytes
  rw [hnode, hkept.appends] at hfills
  constructor
  · rintro rfl
    simpa [openedFor, outputAccess, splice_length] using hfills
  · rintro rfl hunused
    have hoffset : g.offset = 0 := hkept.offset hunused
    simpa [openedFor, outputAccess, hoffset, splice_zero] using hfills

end World

end ShellPipeline
