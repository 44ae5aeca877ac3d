import Mathlib.Data.List.Basic
import ShellPipeline.World.Tree

/-!
# Paths in trees that grow

Creating a file adds an entry to a directory and an object to the tree, and emptying a file leaves
its permission bits. What a path leads to stays the same under both, and a path that led to a free
name leads to the new file from then on. `Leads` says where a path leads name by name, so that what
holds of paths goes by induction on it.
-/

namespace ShellPipeline

/-- What an object may become when files are opened. -/
inductive Node.Becomes : Node → Node → Prop
  | directory (d : Directory) (more : List (String × Nat)) :
      Becomes (.directory d) (.directory { d with entries := d.entries ++ more })
  | file (content content' : Bytes) (mode : Nat) :
      Becomes (.file content mode) (.file content' mode)
  | same (n : Node) : Becomes n n

/-- An object stands at a place, if the place was free before under a name that it has now. -/
def Place.Holds (t : Tree) (id : Nat) : Place → Prop
  | .found other => other = id
  | .vacant dir name => ∃ d content mode, t.directory? dir = some d ∧
      Tree.child? dir d name = some id ∧ t.node? id = some (.file content mode)

namespace Tree

variable {t t' : Tree} {id dir above links mode : Nat} {path name : String} {names : List String}
  {creating closed new : Bool} {place : Place} {d : Directory}

theorem directory?_eq_some_iff : t.directory? id = some d ↔ t.node? id = some (.directory d) := by
  unfold directory?
  split <;> simp_all

/-! ## Where paths lead -/

/-- The name may be looked up in a directory. -/
structure Enters (t : Tree) (dir : Nat) (name : String) (d : Directory) : Prop where
  directory : t.directory? dir = some d
  permitted : permits d.mode searchBit = true
  short : name.utf8ByteSize ≤ Path.maxNameSize

/-- The names lead from a directory to a place through at most `links` symbolic links. -/
inductive Leads (t : Tree) : Nat → Nat → List String → Bool → Place → Prop
  | here {links dir : Nat} {closed : Bool} : Leads t links dir [] closed (.found dir)
  | vacant {links dir : Nat} {name : String} {d : Directory} (enters : t.Enters dir name d)
      (free : child? dir d name = none) : Leads t links dir [name] false (.vacant dir name)
  | last {links dir id : Nat} {name : String} {d : Directory} (enters : t.Enters dir name d)
      (child : child? dir d name = some id) (directory : ∀ d', t.node? id ≠ some (.directory d'))
      (link : ∀ target, t.node? id ≠ some (.link target)) :
      Leads t links dir [name] false (.found id)
  | descend {links dir id : Nat} {name : String} {rest : List String} {closed : Bool}
      {d d' : Directory} {place : Place} (enters : t.Enters dir name d)
      (child : child? dir d name = some id) (directory : t.node? id = some (.directory d'))
      (later : Leads t links id rest closed place) :
      Leads t links dir (name :: rest) closed place
  | follow {links dir id : Nat} {name target : String} {rest : List String} {closed : Bool}
      {d : Directory} {place : Place} (enters : t.Enters dir name d)
      (child : child? dir d name = some id) (link : t.node? id = some (.link target))
      (later : Leads t links (if (Path.ofString target).absolute then 0 else dir)
        ((Path.ofString target).names ++ rest)
        (closed || rest.isEmpty && (Path.ofString target).closed) place) :
      Leads t (links + 1) dir (name :: rest) closed place

/-- Where a walk ends the names lead. -/
theorem leads_of_walk (h : t.walk creating links dir names closed = .ok place) :
    t.Leads links dir names closed place := by
  have henters : ∀ {dir : Nat} {name : String} {d : Directory}, t.directory? dir = some d →
      ¬ (!permits d.mode searchBit) = true → ¬ Path.maxNameSize < name.utf8ByteSize →
      t.Enters dir name d := by
    intro dir name d hd hpermits hshort
    exact ⟨hd, by simpa using hpermits, Nat.le_of_not_lt hshort⟩
  have hopen : ∀ {rest : List String} {closed : Bool}, (rest.isEmpty && !closed) = true →
      rest = [] ∧ closed = false := by simp
  fun_induction walk t creating links dir names closed with
  | case1 =>
      cases h
      exact .here
  | case6 links dir closed name rest d hd hpermits _ hshort hchild hlast =>
      obtain ⟨rfl, rfl⟩ := hopen hlast
      cases h
      exact .vacant (henters hd hpermits hshort) hchild
  | case8 links dir closed name rest d hd hpermits _ hshort id hchild d' hdirectory ih =>
      exact .descend (henters hd hpermits hshort) hchild hdirectory (ih h)
  | case10 dir closed name rest d hd hpermits _ hshort id hchild target hlink links path ih =>
      exact .follow (henters hd hpermits hshort) hchild hlink (ih h)
  | case11 links dir closed name rest d hd hpermits _ hshort id hchild hlast hdirectory hlink =>
      obtain ⟨rfl, rfl⟩ := hopen hlast
      cases h
      exact .last (henters hd hpermits hshort) hchild (fun d' => hdirectory d')
        fun target => hlink target
  | _ => cases h

/-- A walk comes to where the names lead. -/
theorem Leads.walk_eq (h : t.Leads links dir names closed place) :
    t.walk false links dir names closed = .ok place := by
  induction h with
  | here => rw [walk]
  | vacant enters free =>
      rw [walk]
      simp [enters.directory, enters.permitted, Nat.not_lt.mpr enters.short, free]
  | last enters child directory link =>
      rw [walk]
      simp only [enters.directory, enters.permitted, Nat.not_lt.mpr enters.short, child]
      split <;> simp_all
  | descend enters child directory later ih =>
      rw [walk]
      simp [enters.directory, enters.permitted, Nat.not_lt.mpr enters.short, child, directory, ih]
  | follow enters child link later ih =>
      rw [walk]
      simp [enters.directory, enters.permitted, Nat.not_lt.mpr enters.short, child, link, ih]

theorem Leads.locate_eq {p : Path} (hpath : path ≠ "") (hsize : path.utf8ByteSize ≤ Path.maxSize)
    (hp : Path.ofString path = p)
    (h : t.Leads Path.maxLinks (if p.absolute then 0 else dir) p.names p.closed place) :
    t.locate dir false path = .ok place := by
  subst hp
  rw [locate, if_neg hpath, if_neg (Nat.not_lt.mpr hsize)]
  exact h.walk_eq

theorem leads_of_locate (h : t.locate dir creating path = .ok place) :
    path ≠ "" ∧ path.utf8ByteSize ≤ Path.maxSize ∧
      t.Leads Path.maxLinks (if (Path.ofString path).absolute then 0 else dir)
        (Path.ofString path).names (Path.ofString path).closed place := by
  unfold locate at h
  split_ifs at h with hempty hsize
  exact ⟨hempty, Nat.le_of_not_lt hsize, leads_of_walk h⟩

/-- A path leads to the same place whether or not its last name may be a new one. -/
theorem locate_of_creating (h : t.locate dir creating path = .ok place) :
    t.locate dir false path = .ok place := by
  obtain ⟨hpath, hsize, hleads⟩ := leads_of_locate h
  exact hleads.locate_eq hpath hsize rfl

theorem find_eq_ok_iff : t.find dir path = .ok id ↔ t.locate dir false path = .ok (.found id) := by
  unfold find
  split <;> simp_all

theorem Leads.enters (h : t.Leads links dir names closed (.vacant above name)) :
    ∃ d, t.Enters above name d ∧ child? above d name = none := by
  generalize hplace : Place.vacant above name = place at h
  induction h with
  | here => cases hplace
  | @vacant _ _ _ d enters free =>
      cases hplace
      exact ⟨d, enters, free⟩
  | last => cases hplace
  | descend _ _ _ _ ih => exact ih hplace
  | follow _ _ _ _ ih => exact ih hplace

/-! ## Trees that grow -/

/-- All objects are still there. Directories may have more entries, and files other contents. What
is new is a file. -/
structure Grows (t t' : Tree) : Prop where
  kept : ∀ id n, t.node? id = some n → ∃ n', t'.node? id = some n' ∧ n.Becomes n'
  fresh : ∀ id n, t.node? id = none → t'.node? id = some n → ∃ content mode, n = .file content mode

theorem Grows.refl (t : Tree) : t.Grows t where
  kept := fun _ n hn => ⟨n, hn, .same n⟩
  fresh := by simp_all

theorem Grows.directory? (h : t.Grows t') (hd : t.directory? id = some d) :
    ∃ more, t'.directory? id = some { d with entries := d.entries ++ more } := by
  obtain ⟨n', hn', hbecomes⟩ := h.kept id _ (directory?_eq_some_iff.mp hd)
  cases hbecomes with
  | directory _ more => exact ⟨more, directory?_eq_some_iff.mpr hn'⟩
  | same => exact ⟨[], by simpa using directory?_eq_some_iff.mpr hn'⟩

theorem Grows.link (h : t.Grows t') {target : String} (hlink : t.node? id = some (.link target)) :
    t'.node? id = some (.link target) := by
  obtain ⟨n', hn', hbecomes⟩ := h.kept id _ hlink
  cases hbecomes
  exact hn'

theorem Grows.not_directory_or_link (h : t.Grows t')
    (hdirectory : ∀ d, t.node? id ≠ some (.directory d))
    (hlink : ∀ target, t.node? id ≠ some (.link target)) :
    (∀ d, t'.node? id ≠ some (.directory d)) ∧ ∀ target, t'.node? id ≠ some (.link target) := by
  rcases hid : t.node? id with _ | n
  · constructor
    · intro d hd
      obtain ⟨content, mode, hfile⟩ := h.fresh id _ hid hd
      cases hfile
    · intro target htarget
      obtain ⟨content, mode, hfile⟩ := h.fresh id _ hid htarget
      cases hfile
  · obtain ⟨n', hn', hbecomes⟩ := h.kept id n hid
    cases hbecomes with
    | directory d => exact absurd hid (hdirectory d)
    | file => simp [hn']
    | same => rw [hn', ← hid]; exact ⟨hdirectory, hlink⟩

theorem Grows.device_iff (h : t.Grows t') {device : Device} :
    t'.node? id = some (.device device) ↔ t.node? id = some (.device device) := by
  constructor
  · intro hdevice
    rcases hid : t.node? id with _ | n
    · obtain ⟨content, mode, hfile⟩ := h.fresh id _ hid hdevice
      cases hfile
    · obtain ⟨n', hn', hbecomes⟩ := h.kept id n hid
      cases hbecomes with
      | same => rw [← hn', hdevice]
      | directory => cases hn'.symm.trans hdevice
      | file => cases hn'.symm.trans hdevice
  · intro hdevice
    obtain ⟨n', hn', hbecomes⟩ := h.kept id _ hdevice
    cases hbecomes
    exact hn'

theorem Grows.enters (h : t.Grows t') (hd : t.Enters dir name d) :
    ∃ more, t'.Enters dir name { d with entries := d.entries ++ more } := by
  obtain ⟨more, hmore⟩ := h.directory? hd.directory
  exact ⟨more, hmore, hd.permitted, hd.short⟩

theorem child?_append (more : List (String × Nat)) (h : child? dir d name = some id) :
    child? dir { d with entries := d.entries ++ more } name = some id := by
  unfold child? at h ⊢
  split_ifs at h ⊢ with hdot hdots
  · exact h
  · exact h
  · simp [List.lookup_append, h]

/-- Names lead to the same place when the tree has grown, and to the object that stands there by
then. -/
theorem Leads.grows (h : t.Leads links dir names closed place) (hgrows : t.Grows t')
    (hplace : place.Holds t' id) : t'.Leads links dir names closed (.found id) := by
  induction h with
  | here =>
      obtain rfl := hplace
      exact .here
  | @vacant links dir name d enters free =>
      obtain ⟨d', content, mode, hd', hchild, hfile⟩ := hplace
      obtain ⟨more, hmore⟩ := hgrows.enters enters
      obtain rfl : d' = { d with entries := d.entries ++ more } :=
        Option.some.inj (hd'.symm.trans hmore.directory)
      exact .last hmore hchild (by simp [hfile]) (by simp [hfile])
  | @last links dir other name d enters child directory link =>
      obtain rfl := hplace
      obtain ⟨more, hmore⟩ := hgrows.enters enters
      have hsame := hgrows.not_directory_or_link directory link
      exact .last hmore (child?_append more child) hsame.1 hsame.2
  | descend enters child directory later ih =>
      obtain ⟨more, hmore⟩ := hgrows.enters enters
      obtain ⟨more', hmore'⟩ := hgrows.directory? (directory?_eq_some_iff.mpr directory)
      exact .descend hmore (child?_append more child) (directory?_eq_some_iff.mp hmore') (ih hplace)
  | follow enters child link later ih =>
      obtain ⟨more, hmore⟩ := hgrows.enters enters
      exact .follow hmore (child?_append more child) (hgrows.link link) (ih hplace)

theorem find_grows (hgrows : t.Grows t') (h : t.locate dir creating path = .ok place)
    (hplace : place.Holds t' id) : t'.find dir path = .ok id := by
  obtain ⟨hpath, hsize, hleads⟩ := leads_of_locate h
  exact find_eq_ok_iff.mpr ((hleads.grows hgrows hplace).locate_eq hpath hsize rfl)

theorem find_of_grows (hgrows : t.Grows t') (h : t.find dir path = .ok id) :
    t'.find dir path = .ok id :=
  find_grows hgrows (find_eq_ok_iff.mp h) rfl

/-! ## Opening files for writing -/

theorem node?_setNode_self {n : Node} (hid : id < t.nodes.size) :
    (t.setNode id n).node? id = some n := by
  simp [setNode, node?, hid]

theorem node?_setNode_ne {n : Node} {other : Nat} (h : other ≠ id) :
    (t.setNode id n).node? other = t.node? other := by
  simp [setNode, node?, Array.getElem?_setIfInBounds_ne (Ne.symm h)]

theorem lt_size_of_node? {n : Node} (h : t.node? id = some n) : id < t.nodes.size :=
  (Array.getElem?_eq_some_iff.mp h).1

/-- A regular file was created under a free name of a directory. -/
structure Created (t : Tree) (above : Nat) (name : String) (mode : Nat) (t' : Tree) : Prop where
  parent : ∃ d, t.directory? above = some d ∧ child? above d name = none ∧
    t'.directory? above = some { d with entries := d.entries ++ [(name, t.nodes.size)] }
  file : t'.node? t.nodes.size = some (.file [] mode)
  others : ∀ other, other ≠ above → other ≠ t.nodes.size → t'.node? other = t.node? other

/-- A new file takes nothing away. -/
theorem Created.grows (h : t.Created above name mode t') : t.Grows t' := by
  obtain ⟨d, hd, -, hd'⟩ := h.parent
  rw [directory?_eq_some_iff] at hd hd'
  constructor
  · intro id n hn
    by_cases habove : id = above
    · obtain rfl : Node.directory d = n := Option.some.inj (hd.symm.trans (habove ▸ hn))
      exact ⟨_, habove ▸ hd', .directory d _⟩
    · have hne := Nat.ne_of_lt (lt_size_of_node? hn)
      exact ⟨n, (h.others id habove hne).trans hn, .same n⟩
  · intro id n hnone hn
    have habove : id ≠ above := by
      rintro rfl
      cases hnone.symm.trans hd
    by_cases hsize : id = t.nodes.size
    · exact ⟨[], mode, Option.some.inj (hn.symm.trans (hsize ▸ h.file))⟩
    · rw [h.others id habove hsize, hnone] at hn
      cases hn

theorem Created.holds (h : t.Created above name mode t') :
    (Place.vacant above name).Holds t' t.nodes.size := by
  obtain ⟨d, -, hfree, hd'⟩ := h.parent
  refine ⟨_, [], mode, hd', ?_, h.file⟩
  unfold child? at hfree ⊢
  split_ifs at hfree ⊢
  simp [List.lookup_append, hfree]

theorem created_of_create {id : Nat} (hd : t.directory? above = some d)
    (hfree : child? above d name = none) (h : t.create above name (.file [] mode) = .ok (id, t')) :
    id = t.nodes.size ∧ t.Created above name mode t' := by
  have habove := lt_size_of_node? (directory?_eq_some_iff.mp hd)
  simp only [create, addEntry, hd, setEntries] at h
  split_ifs at h
  cases h
  refine ⟨by simp [setNode], ⟨d, hd, hfree, ?_⟩, ?_, ?_⟩
  · rw [directory?_eq_some_iff]
    simp [node?, setNode, Array.getElem?_push, habove, Nat.ne_of_lt habove]
  · simp only [node?, setNode, Array.getElem?_push, Array.size_setIfInBounds, if_true]
  · intro other hother hsize
    simp [node?, setNode, Array.getElem?_push, hsize,
      Array.getElem?_setIfInBounds_ne (Ne.symm hother)]

/-- A path to a file that is to be written leads to an object that exists, or else a file is created
where it leads. -/
theorem findOutput_eq_ok (h : t.findOutput dir path mode = .ok (id, new, t')) :
    (new = false ∧ t' = t ∧ t.find dir path = .ok id) ∨
      (new = true ∧ id = t.nodes.size ∧ t.find dir path = .error .noEntry ∧
        t'.find dir path = .ok id ∧ ∃ above name, t.Created above name mode t') := by
  unfold findOutput at h
  rcases hlocate : t.locate dir true path with e | other | ⟨above, name⟩ <;>
    simp only [hlocate] at h
  · cases h
  · split_ifs at h
    cases h
    exact Or.inl ⟨rfl, rfl, find_eq_ok_iff.mpr (locate_of_creating hlocate)⟩
  · obtain ⟨-, -, hleads⟩ := leads_of_locate hlocate
    obtain ⟨d, henters, hfree⟩ := hleads.enters
    rcases hcreate : t.create above name (.file [] mode) with e | ⟨other, t''⟩ <;>
      rw [hcreate] at h <;> cases h
    obtain ⟨rfl, hcreated⟩ := created_of_create henters.directory hfree hcreate
    have hnone : t.find dir path = .error .noEntry := by
      simp [find, locate_of_creating hlocate]
    exact Or.inr ⟨rfl, rfl, hnone, find_grows hcreated.grows hlocate hcreated.holds, above, name,
      hcreated⟩

theorem node?_truncate_ne {other : Nat} (h : other ≠ id) :
    (t.truncate id).node? other = t.node? other := by
  unfold truncate
  split
  · exact node?_setNode_ne h
  · rfl

theorem node?_truncate_file {content : Bytes} (h : t.node? id = some (.file content mode)) :
    (t.truncate id).node? id = some (.file [] mode) := by
  rw [truncate, h]
  exact node?_setNode_self (lt_size_of_node? h)

theorem truncate_eq_self_of_empty (h : t.node? id = some (.file [] mode)) : t.truncate id = t := by
  obtain ⟨hid, hnode⟩ := Array.getElem?_eq_some_iff.mp h
  rw [truncate, h]
  exact congrArg Tree.mk (by simp [Array.setIfInBounds, hid, ← hnode])

theorem truncate_eq_self (h : ∀ content mode, t.node? id ≠ some (.file content mode)) :
    t.truncate id = t := by
  unfold truncate
  split
  · exact absurd ‹_› (h _ _)
  · rfl

theorem grows_truncate (t : Tree) (id : Nat) : t.Grows (t.truncate id) := by
  by_cases hfile : ∃ content mode, t.node? id = some (.file content mode)
  · obtain ⟨content, mode, hfile⟩ := hfile
    constructor
    · intro other n hn
      by_cases hother : other = id
      · subst hother
        obtain rfl := Option.some.inj (hfile.symm.trans hn)
        exact ⟨_, node?_truncate_file hfile, .file content [] mode⟩
      · exact ⟨n, (node?_truncate_ne hother).trans hn, .same n⟩
    · intro other n hnone hn
      have hother : other ≠ id := by
        rintro rfl
        cases hnone.symm.trans hfile
      rw [node?_truncate_ne hother, hnone] at hn
      cases hn
  · rw [truncate_eq_self fun content mode h => hfile ⟨content, mode, h⟩]
    exact .refl t

end Tree

end ShellPipeline
