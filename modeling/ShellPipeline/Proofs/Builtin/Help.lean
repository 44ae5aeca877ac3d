import ShellPipeline.Proofs.Builtin.Frame

/-!
# Help on names

Each name gets its own answer, on standard output if it is in the table and on standard error if it
is not, so help on two lists of names is help on the first followed by help on the second. One name
without help is enough for the status to tell, whatever names come after it.
-/

namespace ShellPipeline

namespace HelpEntry

/-- The entries that the table has for names, in the order of the names. -/
def ofNames (names : List String) : List HelpEntry :=
  names.flatMap fun name => table.filter (·.name = name)

def unknown (names : List String) : List String :=
  names.filter (· ∉ table.map HelpEntry.name)

def shown (names : List String) : Bytes :=
  (ofNames names).flatMap fun e => utf8 e.render

def reported (names : List String) : Bytes :=
  (unknown names).flatMap fun name => utf8 ("pipesh: help: no help for " ++ name ++ "\n")

variable {name : String}

theorem find?_of_mem (h : name ∈ table.map HelpEntry.name) :
    ∃ e, find? name = some e ∧ ofNames [name] = [e] ∧ unknown [name] = [] := by
  simp only [table, List.map_cons, List.map_nil, List.mem_cons, List.not_mem_nil, or_false] at h
  rcases h with rfl | rfl | rfl | rfl | rfl | rfl
  all_goals exact ⟨_, rfl, rfl, rfl⟩

theorem find?_of_notMem (h : name ∉ table.map HelpEntry.name) :
    find? name = none ∧ ofNames [name] = [] ∧ unknown [name] = [name] := by
  have hnone : ∀ e ∈ table, ¬ decide (e.name = name) = true := by
    intro e he hname
    exact h (List.mem_map.mpr ⟨e, he, of_decide_eq_true hname⟩)
  refine ⟨List.find?_eq_none.mpr hnone, ?_, ?_⟩
  · rw [ofNames, List.flatMap_singleton, List.filter_eq_nil_iff.mpr hnone]
  · exact List.filter_cons_of_pos (decide_eq_true h)

theorem unknown_append (names more : List String) :
    unknown (names ++ more) = unknown names ++ unknown more :=
  List.filter_append ..

theorem shown_append (names more : List String) :
    shown (names ++ more) = shown names ++ shown more := by
  rw [shown, ofNames, List.flatMap_append, List.flatMap_append]
  rfl

theorem reported_append (names more : List String) :
    reported (names ++ more) = reported names ++ reported more := by
  rw [reported, unknown_append, List.flatMap_append]
  rfl

def status (names : List String) : Status :=
  if ∀ name ∈ names, name ∈ table.map HelpEntry.name then 0 else 2

theorem status_append (names more : List String) :
    status (names ++ more) = max (status names) (status more) := by
  simp only [status, List.forall_mem_append]
  by_cases h : ∀ name ∈ names, name ∈ table.map HelpEntry.name
  · by_cases h' : ∀ name ∈ more, name ∈ table.map HelpEntry.name
    · rw [if_pos ⟨h, h'⟩, if_pos h, if_pos h']
      rfl
    · rw [if_neg fun hall => h' hall.2, if_pos h, if_neg h']
      rfl
  · rw [if_neg fun hall => h hall.1, if_neg h]
    split <;> rfl

end HelpEntry

/-! ## What a call adds to the standard streams -/

/-- From one world to another the shell has written bytes to its standard output and to its standard
error, and nothing else is different. -/
structure World.Adds (w : World) (shown reported : Bytes) (w' : World) : Prop where
  kept : w.Says w'
  output : w'.output.toBytes = w.output.toBytes ++ shown
  errors : w'.errors.toBytes = w.errors.toBytes ++ reported

namespace World

variable {w w' w'' : World} {shown shown' reported reported' : Bytes}

theorem Adds.refl (w : World) : w.Adds [] [] w :=
  ⟨.refl w, (List.append_nil _).symm, (List.append_nil _).symm⟩

theorem Adds.trans (h : w.Adds shown reported w') (h' : w'.Adds shown' reported' w'') :
    w.Adds (shown ++ shown') (reported ++ reported') w'' where
  kept := h.kept.trans h'.kept
  output := by rw [h'.output, h.output, List.append_assoc]
  errors := by rw [h'.errors, h.errors, List.append_assoc]

/-- What was added can be read off the worlds. -/
theorem Adds.unique (h : w.Adds shown reported w') (h' : w.Adds shown' reported' w') :
    shown = shown' ∧ reported = reported' :=
  ⟨List.append_cancel_left (h.output.symm.trans h'.output),
    List.append_cancel_left (h.errors.symm.trans h'.errors)⟩

theorem adds_print (w : World) (text : String) : w.Adds (utf8 text) [] (w.print text) where
  kept := w.says_print text
  output := Queue.toBytes_add w.output (utf8 text)
  errors := (List.append_nil _).symm

theorem adds_complain (w : World) (text : String) : w.Adds [] (utf8 text) (w.complain text) where
  kept := w.says_complain text
  output := (List.append_nil _).symm
  errors := Queue.toBytes_add w.errors (utf8 text)

end World

namespace Builtin

variable {σ α η : Type} [Console σ] {world : σ → World}

theorem adds_helpOn (hworld : Console.Within world) (s : Session σ α η) (name : String) :
    (helpOn s name).1 = decide (name ∈ HelpEntry.table.map HelpEntry.name) ∧
      (world s.shell.host).Adds (HelpEntry.shown [name]) (HelpEntry.reported [name])
        (world (helpOn s name).2.shell.host) := by
  by_cases hname : name ∈ HelpEntry.table.map HelpEntry.name
  · obtain ⟨e, hfind, hentries, hunknown⟩ := HelpEntry.find?_of_mem hname
    have hadds := (world s.shell.host).adds_print e.render
    rw [← hworld.print] at hadds
    simp only [helpOn, hfind, HelpEntry.shown, hentries, HelpEntry.reported, hunknown,
      List.flatMap_singleton, List.flatMap_nil]
    exact ⟨(decide_eq_true hname).symm, hadds⟩
  · obtain ⟨hfind, hentries, hunknown⟩ := HelpEntry.find?_of_notMem hname
    have hadds := (world s.shell.host).adds_complain
      ("pipesh: " ++ ("help: no help for " ++ name) ++ "\n")
    rw [← hworld.report] at hadds
    simp only [helpOn, hfind, HelpEntry.shown, hentries, HelpEntry.reported, hunknown,
      List.flatMap_singleton, List.flatMap_nil]
    refine ⟨(decide_eq_false hname).symm, ?_⟩
    rw [← String.append_assoc] at hadds
    exact hadds

/-- Help on names fails exactly if one of them is unknown, and what it writes is told by the names
alone. -/
theorem adds_helpOnAll (hworld : Console.Within world) (status : Status) (s : Session σ α η)
    (names : List String) :
    (helpOnAll status s names).1 =
        (if ∀ name ∈ names, name ∈ HelpEntry.table.map HelpEntry.name then status else 2) ∧
      (world s.shell.host).Adds (HelpEntry.shown names) (HelpEntry.reported names)
        (world (helpOnAll status s names).2.shell.host) := by
  -- the status is kept general: a name without help sets it, and no other name touches it
  induction names generalizing status s with
  | nil => exact ⟨rfl, .refl _⟩
  | cons name names ih =>
      obtain ⟨hknown, hadds⟩ := adds_helpOn hworld s name
      obtain ⟨hstatus, hrest⟩ :=
        ih (if (helpOn s name).1 then status else 2) (helpOn s name).2
      have hall := hadds.trans hrest
      rw [← HelpEntry.shown_append, ← HelpEntry.reported_append] at hall
      refine ⟨hstatus.trans ?_, hall⟩
      simp only [hknown, decide_eq_true_eq, List.forall_mem_cons]
      by_cases hname : name ∈ HelpEntry.table.map HelpEntry.name
      · simp only [hname, if_true, true_and]
      · simp only [hname, if_false, false_and, ite_self]

/-- Help on more names goes on where the help on the first ones ended. -/
theorem helpOnAll_append (status : Status) (s : Session σ α η) (names more : List String) :
    helpOnAll status s (names ++ more)
      = helpOnAll (helpOnAll status s names).1 (helpOnAll status s names).2 more := by
  induction names generalizing status s with
  | nil => rfl
  | cons name names ih => exact ih _ _

/-- What is said does not depend on the status so far. -/
theorem snd_helpOnAll (status status' : Status) (s : Session σ α η) (names : List String) :
    (helpOnAll status s names).2 = (helpOnAll status' s names).2 := by
  induction names generalizing status status' s with
  | nil => rfl
  | cons name names ih => exact ih _ _ _

theorem help_of_names (name : String) {names : List String} (hnames : names ≠ []) (last : Status)
    (asked : Bool) (s : Session σ α η) : help (name :: names) last asked s =
      (⟨(helpOnAll 0 s names).1, asked⟩, (helpOnAll 0 s names).2) := by
  obtain ⟨first, names, rfl⟩ := List.exists_cons_of_ne_nil hnames
  rfl

/-- The status of help on some names depends on nothing but the names. -/
theorem status_help (hworld : Console.Within world) (name : String) {names : List String}
    (hnames : names ≠ []) (last : Status) (asked : Bool) (s : Session σ α η) :
    (help (name :: names) last asked s).1 = ⟨HelpEntry.status names, asked⟩ := by
  rw [help_of_names name hnames, (adds_helpOnAll hworld 0 s names).1]
  rfl

theorem adds_help (hworld : Console.Within world) (name : String) {names : List String}
    (hnames : names ≠ []) (last : Status) (asked : Bool) (s : Session σ α η) :
    (world s.shell.host).Adds (HelpEntry.shown names) (HelpEntry.reported names)
      (world (help (name :: names) last asked s).2.shell.host) := by
  rw [help_of_names name hnames]
  exact (adds_helpOnAll hworld 0 s names).2

/-- Help on names shows their entries, in the order of the names, and complains about each name
without an entry, in the same order; its status tells whether there was one. Help on two lists of
names in one call does what help on the first and then on the second does: it adds to each stream
what the two add, and has the larger of their statuses. -/
theorem help_answers_names (hworld : Console.Within world) (name : String) {names : List String}
    (hnames : names ≠ []) (last : Status) (asked : Bool) (s : Session σ α η) :
    (help (name :: names) last asked s).1 = ⟨HelpEntry.status names, asked⟩ ∧
    (world s.shell.host).Adds (HelpEntry.shown names) (HelpEntry.reported names)
      (world (help (name :: names) last asked s).2.shell.host) ∧
    s.SameButHost (help (name :: names) last asked s).2 ∧
    ∀ more, more ≠ [] →
      (help (name :: (names ++ more)) last asked s).2
        = (help (name :: more) last asked (help (name :: names) last asked s).2).2 ∧
      ∀ (t u : Session σ α η) (shown reported shown' reported' : Bytes),
        (world t.shell.host).Adds shown reported
          (world (help (name :: names) last asked t).2.shell.host) →
        (world u.shell.host).Adds shown' reported'
          (world (help (name :: more) last asked u).2.shell.host) →
        (world s.shell.host).Adds (shown ++ shown') (reported ++ reported')
          (world (help (name :: (names ++ more)) last asked s).2.shell.host) ∧
        (help (name :: (names ++ more)) last asked s).1.status
          = max (help (name :: names) last asked t).1.status
            (help (name :: more) last asked u).1.status := by
  refine ⟨status_help hworld name hnames last asked s, adds_help hworld name hnames last asked s,
    ?_, fun more hmore => ?_⟩
  · rw [help_of_names name hnames]
    exact Session.sameButHost_helpOnAll 0 s names
  · have hboth : names ++ more ≠ [] := List.append_ne_nil_of_left_ne_nil hnames more
    refine ⟨?_, fun t u shown reported shown' reported' ht hu => ⟨?_, ?_⟩⟩
    · rw [help_of_names name hboth, help_of_names name hnames, help_of_names name hmore,
        helpOnAll_append]
      exact snd_helpOnAll _ _ _ more
    · obtain ⟨rfl, rfl⟩ := ht.unique (adds_help hworld name hnames last asked t)
      obtain ⟨rfl, rfl⟩ := hu.unique (adds_help hworld name hmore last asked u)
      rw [← HelpEntry.shown_append, ← HelpEntry.reported_append]
      exact adds_help hworld name hboth last asked s
    · rw [status_help hworld name hboth, status_help hworld name hnames,
        status_help hworld name hmore]
      exact HelpEntry.status_append names more

/-- A known name after an unknown one does not make up for it. -/
theorem help_answers_names_mixed :
    Console.Within Machine.world ∧ ["pwd", "nosuch", "cd"] ≠ [] ∧
      (help ["help", "pwd", "nosuch", "cd"] 7 false shellOutside).1 = ⟨2, false⟩ ∧
      shellOutside.shell.host.world.Adds
        (utf8 ("pwd - print the working directory\nusage: pwd\n" ++
          "cd - change the working directory (default $HOME)\nusage: cd [dir]\n"))
        (utf8 "pipesh: help: no help for nosuch\n")
        (help ["help", "pwd", "nosuch", "cd"] 7 false shellOutside).2.shell.host.world := by
  have hnames : ["pwd", "nosuch", "cd"] ≠ [] := nofun
  obtain ⟨hstatus, hadds, -⟩ :=
    help_answers_names Machine.consoleWithin "help" hnames 7 false shellOutside
  have hshown : HelpEntry.shown ["pwd", "nosuch", "cd"]
      = utf8 ("pwd - print the working directory\nusage: pwd\n" ++
        "cd - change the working directory (default $HOME)\nusage: cd [dir]\n") := by
    decide +kernel
  rw [hshown] at hadds
  exact ⟨Machine.consoleWithin, hnames, hstatus, hadds⟩

end Builtin

end ShellPipeline
