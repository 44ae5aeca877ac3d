import ShellPipeline.Machine.Shell
import ShellPipeline.Proofs.Builtin.Exit
import ShellPipeline.Proofs.Child.Arguments
import ShellPipeline.Proofs.Session.Fold
import ShellPipeline.Proofs.World.Opening

/-!
# What the standard builtins leave alone

The standard builtins only say something, but for `exit`, which may ask the shell to exit, and `cd`,
which may move it to another directory. Both look at all of their words before they do so.
-/

namespace ShellPipeline

/-! ## Consoles in a world -/

/-- The states of a console stand in a world, whose shell it serves. -/
structure Console.Within {σ : Type} [Console σ] (world : σ → World) : Prop where
  print : ∀ text h, world (Console.print text h) = (world h).print text
  report : ∀ text h, world (Console.report text h) = (world h).complain text
  enter : ∀ path h, (Console.enter path h).map id world = (world h).enter path
  home : ∀ h, Console.home h = (world h).home

namespace World

variable {w w' w'' : World} {path : String} {id : Nat}

/-- A world is a console of its own. -/
theorem consoleWithin : Console.Within fun w : World => w :=
  ⟨fun _ _ => rfl, fun _ _ => rfl, fun _ _ => rfl, fun _ => rfl⟩

/-- Nothing but what the shell has said may be different. -/
def Says (w w' : World) : Prop :=
  w' = { w with output := w'.output, errors := w'.errors }

theorem Says.refl (w : World) : w.Says w :=
  rfl

theorem Says.trans (h : w.Says w') (h' : w'.Says w'') : w.Says w'' := by
  rw [Says] at *
  rw [h', h]

theorem Says.directory (h : w.Says w') : w'.directory = w.directory := by
  rw [Says] at h
  rw [h]

theorem says_print (w : World) (text : String) : w.Says (w.print text) :=
  rfl

theorem says_complain (w : World) (text : String) : w.Says (w.complain text) :=
  rfl

/-- A path leads to a directory that may be searched. -/
structure Names (w : World) (path : String) (id : Nat) : Prop where
  whole : '\x00' ∉ path.toList
  nonempty : path ≠ ""
  short : path.utf8ByteSize ≤ Path.maxSize
  leads : w.tree.Leads Path.maxLinks (if (Path.ofString path).absolute then 0 else w.directory)
    (Path.ofString path).names (Path.ofString path).closed (.found id)
  directory : ∃ d, w.tree.directory? id = some d ∧ permits d.mode searchBit = true

/-- A path without a NUL names the directory that it is found to lead to. -/
theorem names_iff : w.Names path id ↔
    '\x00' ∉ path.toList ∧ w.tree.findDirectory w.directory path = .ok id := by
  constructor
  · rintro ⟨hwhole, hnonempty, hshort, hleads, d, hd, hpermits⟩
    have hfind := Tree.find_eq_ok_iff.mpr (hleads.locate_eq hnonempty hshort rfl)
    refine ⟨hwhole, ?_⟩
    simp only [Tree.findDirectory, hfind, hd, hpermits, if_true]
  · rintro ⟨hwhole, hfind⟩
    unfold Tree.findDirectory at hfind
    split at hfind
    · cases hfind
    · rename_i i hi
      split at hfind
      · cases hfind
      · rename_i d hd
        split_ifs at hfind with hpermits
        cases hfind
        obtain ⟨hnonempty, hshort, hleads⟩ := Tree.leads_of_locate (Tree.find_eq_ok_iff.mp hi)
        exact ⟨hwhole, hnonempty, hshort, hleads, d, hd, hpermits⟩

theorem Names.unique {id' : Nat} (h : w.Names path id) (h' : w.Names path id') : id = id' :=
  Except.ok.inj ((names_iff.mp h).2.symm.trans (names_iff.mp h').2)

/-- The shell moves to the directory that a path names, or stays where it is if there is none. -/
theorem enter_cases (w : World) (path : String) :
    (∃ id, w.Names path id ∧ w.enter path = (.ok (), { w with directory := id })) ∨
      ∃ f, (∀ id, ¬ w.Names path id) ∧ w.enter path = (.error f, w) := by
  simp only [names_iff, World.enter]
  by_cases hnul : hasNul path = true
  · refine Or.inr ⟨.nulInPath, ?_, if_pos hnul⟩
    rintro id ⟨hwhole, -⟩
    exact hwhole ((hasNul_iff path).mp hnul)
  · have hwhole : '\x00' ∉ path.toList := fun hmem => hnul ((hasNul_iff path).mpr hmem)
    rw [if_neg hnul]
    cases hfind : w.tree.findDirectory w.directory path with
    | error e => exact Or.inr ⟨.errno e, fun id => by simp, rfl⟩
    | ok id => exact Or.inl ⟨id, ⟨hwhole, rfl⟩, rfl⟩

end World

theorem Machine.consoleWithin : Console.Within Machine.world :=
  ⟨fun _ _ => rfl, fun _ _ => rfl, fun _ _ => rfl, fun _ => rfl⟩

theorem Rehearsal.consoleWithin : Console.Within Rehearsal.world :=
  ⟨fun _ _ => rfl, fun _ _ => rfl, fun _ _ => rfl, fun _ => rfl⟩

namespace Session

variable {σ α η : Type} [Console σ] {world : σ → World}

theorem says_print (hworld : Console.Within world) (s : Session σ α η) (text : String) :
    (world s.shell.host).Says (world (s.print text).shell.host) :=
  (hworld.print text s.shell.host).symm ▸ World.says_print _ text

theorem says_complain (hworld : Console.Within world) (s : Session σ α η) (message : String) :
    (world s.shell.host).Says (world (s.complain message).shell.host) :=
  (hworld.report _ s.shell.host).symm ▸ World.says_complain _ _

end Session

/-! ## Calls of builtins -/

namespace Builtin

/-- The words after the name ask to leave with the previous status or with another one. -/
def AsksToLeave (args : List String) : Prop :=
  args = [] ∨ ∃ (code : String) (v : Status), args = [code] ∧ IsNumeral code v.toInt

/-- What a call of a standard builtin with some words after its name answers, and how the world
after it differs from the one before. -/
structure Frame (name : String) (args : List String) (last : Status) (asked : Bool) (w : World)
    (answer : Outcome) (w' : World) : Prop where
  /-- The world is the same but for the working directory and what was said. -/
  world : World.Says { w with directory := w'.directory } w'
  exits : answer.exit = true ↔ asked = true ∨ name = "exit" ∧ AsksToLeave args
  moves : w'.directory ≠ w.directory → name = "cd" ∧ args.length ≤ 1 ∧ answer.status = 0
  enters : name = "cd" → answer.status = 0 →
    args.length ≤ 1 ∧ ∃ path, args.head?.or w.home = some path ∧ w.Names path w'.directory
  refuses : name = "cd" → answer.status ≠ 0 → answer.status = 1 ∧ w'.directory = w.directory ∧
    (1 < args.length ∨ args.head?.or w.home = none ∨
      ∃ path, args.head?.or w.home = some path ∧ ∀ id, ¬ w.Names path id)
  keeps : name = "status" ∨ name = "exit" ∧ args = [] → answer.status = last
  tooMany : name = "exit" → 1 < args.length → answer = ⟨1, asked⟩
  noNumeral : ∀ code, name = "exit" → args = [code] → (∀ v : Status, ¬ IsNumeral code v.toInt) →
    answer = ⟨2, asked⟩

variable {σ α η : Type} [Console σ] {world : σ → World} {w w' : World} {name : String}
  {args : List String} {last : Status} {asked : Bool} {answer : Outcome} {s : Session σ α η}

/-- A builtin that neither leaves nor moves keeps whether the shell was asked to exit. -/
theorem frame_of_says (hsaid : w.Says w') (hexit : answer.exit = asked) (hname : name ≠ "exit")
    (hcd : name ≠ "cd") (hstatus : name = "status" → answer.status = last) :
    Frame name args last asked w answer w' where
  world := by rwa [hsaid.directory]
  exits := by simp [hexit, hname]
  moves hmoved := absurd hsaid.directory hmoved
  enters h := absurd h hcd
  refuses h := absurd h hcd
  keeps := by
    rintro (h | ⟨h, -⟩)
    · exact hstatus h
    · exact absurd h hname
  tooMany h := absurd h hname
  noNumeral _ h := absurd h hname

/-! ### Leaving -/

/-- What a request to leave with some words answers. -/
inductive Leaves (last : Status) (asked : Bool) : List String → Outcome → Prop
  | previous : Leaves last asked [] ⟨last, true⟩
  | given {code : String} {v : Status} (numeral : IsNumeral code v.toInt) :
      Leaves last asked [code] ⟨v, true⟩
  | noNumeral {code : String} (none : ∀ v : Status, ¬ IsNumeral code v.toInt) :
      Leaves last asked [code] ⟨2, asked⟩
  | tooMany {args : List String} (many : 1 < args.length) : Leaves last asked args ⟨1, asked⟩

theorem leaves_exit (hworld : Console.Within world) (name : String) (args : List String)
    (last : Status) (asked : Bool) (s : Session σ α η) :
    Leaves last asked args (exit (name :: args) last asked s).1 ∧
      (world s.shell.host).Says (world (exit (name :: args) last asked s).2.shell.host) := by
  match args with
  | [] => exact ⟨.previous, .refl _⟩
  | [code] =>
      by_cases hnumeral : ∃ v : Status, IsNumeral code v.toInt
      · obtain ⟨v, hv⟩ := hnumeral
        rw [exit_of_isNumeral name hv]
        exact ⟨.given hv, .refl _⟩
      · rw [not_exists] at hnumeral
        rw [exit_of_not_isNumeral name hnumeral]
        exact ⟨.noNumeral hnumeral, s.says_complain hworld _⟩
  | _ :: _ :: _ => exact ⟨.tooMany (by simp), s.says_complain hworld _⟩

/-- The shell is asked to exit exactly if it was before or the words say so. -/
theorem Leaves.exit_iff (h : Leaves last asked args answer) :
    answer.exit = true ↔ asked = true ∨ AsksToLeave args := by
  cases h with
  | previous => simp [AsksToLeave]
  | @given code v numeral => simpa [AsksToLeave] using Or.inr ⟨v, numeral⟩
  | noNumeral none => simp [AsksToLeave, none]
  | tooMany many =>
      have hlong : ¬ AsksToLeave args := by
        rintro (rfl | ⟨code, v, rfl, -⟩)
        · simp at many
        · simp at many
      simp [hlong]

theorem frame_of_leaves (h : Leaves last asked args answer) (hsaid : w.Says w') :
    Frame "exit" args last asked w answer w' where
  world := by rwa [hsaid.directory]
  exits := by simpa using h.exit_iff
  moves hmoved := absurd hsaid.directory hmoved
  enters := nofun
  refuses := nofun
  keeps := by
    rintro (hname | ⟨-, rfl⟩)
    · exact absurd hname (by decide)
    · cases h with
      | previous => rfl
      | tooMany many => cases many
  tooMany := by
    intro _ hmany
    cases h with
    | tooMany => rfl
    | _ => simp at hmany
  noNumeral := by
    rintro code - rfl hnone
    cases h with
    | given numeral => exact absurd numeral (hnone _)
    | noNumeral => rfl
    | tooMany many => simp at many

/-! ### Moving -/

/-- What a request to move with some words answers, and the directory in which the shell is after
it. -/
inductive Moves (asked : Bool) (w : World) (args : List String) : Outcome → Nat → Prop
  | entered {path : String} {id : Nat} (few : args.length ≤ 1)
      (wanted : args.head?.or w.home = some path) (names : w.Names path id) :
      Moves asked w args ⟨0, asked⟩ id
  | tooMany (many : 1 < args.length) : Moves asked w args ⟨1, asked⟩ w.directory
  | nowhere (unknown : args.head?.or w.home = none) : Moves asked w args ⟨1, asked⟩ w.directory
  | refused {path : String} (wanted : args.head?.or w.home = some path)
      (none : ∀ id, ¬ w.Names path id) : Moves asked w args ⟨1, asked⟩ w.directory

/-- The directory is asked for before the words are counted, but both are looked at before anything
is done. -/
theorem destination_cases (home : Option String) (name : String) (args : List String) :
    (∃ path, args.length ≤ 1 ∧ args.head?.or home = some path ∧
        destination home (name :: args) = .ok path) ∨
      ∃ message, (1 < args.length ∨ args.head?.or home = none) ∧
        destination home (name :: args) = .error message := by
  have hhead : (name :: args)[1]? = args.head? := by
    rw [List.getElem?_cons_succ, List.head?_eq_getElem?]
  rw [destination, hhead, List.length_cons]
  cases hpath : args.head?.or home with
  | none => exact Or.inr ⟨_, Or.inr rfl, rfl⟩
  | some path =>
      by_cases hmany : 1 < args.length
      · exact Or.inr ⟨_, Or.inl hmany, if_pos (by omega)⟩
      · exact Or.inl ⟨path, by omega, rfl, if_neg (by omega)⟩

/-- Whatever its words, a change of directory answers and moves as it should, and otherwise it has
only said something. -/
theorem moves_cd (hworld : Console.Within world) (name : String) (args : List String)
    (last : Status) (asked : Bool) (s : Session σ α η) :
    ∃ id, Moves asked (world s.shell.host) args (cd (name :: args) last asked s).1 id ∧
      World.Says { world s.shell.host with directory := id }
        (world (cd (name :: args) last asked s).2.shell.host) := by
  have hhome := hworld.home s.shell.host
  rcases destination_cases (world s.shell.host).home name args with ⟨path, hfew, hwanted, hcd⟩ |
    ⟨message, hrefused, hcd⟩
  · -- the console answers as the world does, so the cases are those of the world
    have henter := hworld.enter path s.shell.host
    rcases hconsole : Console.enter path s.shell.host with ⟨answer, host⟩
    rw [hconsole] at henter
    rcases World.enter_cases (world s.shell.host) path with ⟨id, hnames, hok⟩ | ⟨f, hnone, herror⟩
    · obtain ⟨rfl, hhost⟩ := Prod.mk.inj (henter.trans hok)
      simp only [cd, hhome, hcd, hconsole]
      exact ⟨id, .entered hfew hwanted hnames, hhost ▸ .refl _⟩
    · obtain ⟨rfl, hhost⟩ := Prod.mk.inj (henter.trans herror)
      simp only [cd, hhome, hcd, hconsole]
      have hsaid := (s.mapHost fun _ => host).says_complain hworld
        ("cd: " ++ path ++ ": " ++ f.message)
      exact ⟨_, .refused hwanted hnone, hhost ▸ hsaid⟩
  · have hsaid := s.says_complain hworld ("cd: " ++ message)
    simp only [cd, hhome, hcd]
    refine ⟨_, ?_, hsaid⟩
    rcases hrefused with hmany | hunknown
    · exact .tooMany hmany
    · exact .nowhere hunknown

theorem frame_of_moves {id : Nat} (h : Moves asked w args answer id)
    (hsaid : World.Says { w with directory := id } w') :
    Frame "cd" args last asked w answer w' where
  world := by rwa [hsaid.directory]
  exits := by cases h <;> simp
  moves := by
    rw [hsaid.directory]
    intro hmoved
    cases h with
    | entered few => exact ⟨rfl, few, rfl⟩
    | _ => exact absurd rfl hmoved
  enters := by
    rw [hsaid.directory]
    intro _ hzero
    cases h with
    | entered few wanted names => exact ⟨few, _, wanted, names⟩
    | _ => cases hzero
  refuses := by
    rw [hsaid.directory]
    intro _ hnonzero
    cases h with
    | entered => exact absurd rfl hnonzero
    | tooMany many => exact ⟨rfl, rfl, Or.inl many⟩
    | nowhere unknown => exact ⟨rfl, rfl, Or.inr (Or.inl unknown)⟩
    | refused wanted none => exact ⟨rfl, rfl, Or.inr (Or.inr ⟨_, wanted, none⟩)⟩
  keeps := by simp
  tooMany := nofun
  noNumeral := nofun

/-! ### Help -/

theorem says_helpOnAll (hworld : Console.Within world) (status : Status) (s : Session σ α η)
    (names : List String) :
    (world s.shell.host).Says (world (helpOnAll status s names).2.shell.host) := by
  induction names generalizing status s with
  | nil => exact .refl _
  | cons name names ih =>
      have hshown : (world s.shell.host).Says (world (helpOn s name).2.shell.host) := by
        unfold helpOn
        split
        · exact s.says_print hworld _
        · exact s.says_complain hworld _
      exact hshown.trans (ih _ _)

theorem says_help (hworld : Console.Within world) (words : List String) (last : Status)
    (asked : Bool) (s : Session σ α η) : (help words last asked s).1.exit = asked ∧
      (world s.shell.host).Says (world (help words last asked s).2.shell.host) := by
  unfold help
  split
  · exact ⟨rfl, s.says_print hworld _⟩
  · exact ⟨rfl, says_helpOnAll hworld 0 s _⟩

theorem says_pwd (hworld : Console.Within world) (words : List String) (last : Status)
    (asked : Bool) (s : Session σ α η) : (pwd words last asked s).1.exit = asked ∧
      (world s.shell.host).Says (world (pwd words last asked s).2.shell.host) := by
  unfold pwd
  split
  · exact ⟨rfl, s.says_print hworld _⟩
  · exact ⟨rfl, s.says_complain hworld _⟩

/-! ### All builtins -/

/-- No standard builtin takes back a request to exit, and only `exit` makes one, with words that
ask to leave. Only `cd` moves the shell, with at most one word, to the directory that this word or
else the home directory names; when it refuses to do so nothing has moved. All else stays as it
was, the history included, but for what is said. -/
theorem frame_of_mem_standard (hworld : Console.Within world) {h : Handler (Session σ α η)}
    (hmem : (name, h) ∈ Registry.standard.entries) (args : List String) (last : Status)
    (asked : Bool) (s : Session σ α η) :
    s.SameButHost (h (name :: args) last asked s).2 ∧
      (h (name :: args) last asked s).2.history = s.history ∧
      Frame name args last asked (world s.shell.host) (h (name :: args) last asked s).1
        (world (h (name :: args) last asked s).2.shell.host) := by
  refine ⟨Session.sameButHost_of_mem_standard hmem _ last asked s,
    Session.history_of_mem_standard hmem _ last asked s, ?_⟩
  simp only [Registry.standard, List.mem_cons, List.not_mem_nil, or_false, Prod.mk.injEq] at hmem
  rcases hmem with ⟨rfl, rfl⟩ | ⟨rfl, rfl⟩ | ⟨rfl, rfl⟩ | ⟨rfl, rfl⟩ | ⟨rfl, rfl⟩ | ⟨rfl, rfl⟩
  · obtain ⟨hleaves, hsaid⟩ := leaves_exit hworld "exit" args last asked s
    exact frame_of_leaves hleaves hsaid
  · obtain ⟨id, hmoves, hsaid⟩ := moves_cd hworld "cd" args last asked s
    exact frame_of_moves hmoves hsaid
  · obtain ⟨hexit, hsaid⟩ := says_pwd hworld ("pwd" :: args) last asked s
    exact frame_of_says hsaid hexit (by decide) (by decide)
      fun hstatus => absurd hstatus (by decide)
  · exact frame_of_says (s.says_print hworld _) rfl (by decide) (by decide) fun _ => rfl
  · exact frame_of_says (s.says_print hworld _) rfl (by decide) (by decide)
      fun hstatus => absurd hstatus (by decide)
  · obtain ⟨hexit, hsaid⟩ := says_help hworld ("help" :: args) last asked s
    exact frame_of_says hsaid hexit (by decide) (by decide)
      fun hstatus => absurd hstatus (by decide)

/-- A shell in a directory with one other directory below it, whose user has no home. -/
def shellOutside : Session Machine Channel Nat :=
  let tree : Tree :=
    ⟨#[.directory { parent := 0, entries := [("in", 1)] }, .directory { parent := 0 }]⟩
  { shell := .ofHost (.ofWorld { tree }) { tree } }

theorem names_shellOutside : shellOutside.shell.host.world.Names "in" 1 := by
  have hpath : Path.ofString "in" = ⟨false, ["in"], false⟩ := rfl
  refine ⟨by decide, by decide, by decide, ?_, _, rfl, rfl⟩
  rw [hpath]
  exact .descend ⟨rfl, rfl, by decide⟩ rfl rfl .here

theorem frame_shellOutside :
    Console.Within Machine.world ∧
      ("cd", cd) ∈ (Registry.standard : Registry (Session Machine Channel Nat)).entries ∧
      (cd ["cd", "in"] 7 true shellOutside).1 = ⟨0, true⟩ ∧
      (cd ["cd", "in"] 7 true shellOutside).2.shell.host.world.directory = 1 ∧
      (cd ["cd"] 7 true shellOutside).1 = ⟨1, true⟩ ∧
      (cd ["cd"] 7 true shellOutside).2.shell.host.world.directory = 0 := by
  have hmem : ("cd", cd) ∈
      (Registry.standard : Registry (Session Machine Channel Nat)).entries :=
    List.mem_cons_of_mem _ List.mem_cons_self
  obtain ⟨-, -, hin⟩ := frame_of_mem_standard Machine.consoleWithin hmem ["in"] 7 true
    shellOutside
  have hzero : (cd ["cd", "in"] 7 true shellOutside).1.status = 0 := by
    by_contra hnonzero
    obtain ⟨-, -, hmany | hunknown | ⟨path, hpath, hnone⟩⟩ := hin.refuses rfl hnonzero
    · simp at hmany
    · cases hunknown
    · cases hpath
      exact hnone 1 names_shellOutside
  have hexit := hin.exits.mpr (Or.inl rfl)
  obtain ⟨-, path, hpath, hnames⟩ := hin.enters rfl hzero
  cases hpath
  refine ⟨Machine.consoleWithin, hmem, ?_, hnames.unique names_shellOutside, rfl, rfl⟩
  exact congrArg₂ Outcome.mk hzero hexit

end Builtin

end ShellPipeline
