import Mathlib.Logic.Relation
import ShellPipeline.Proofs.Run.Outfit
import ShellPipeline.Proofs.Run.Requests
import ShellPipeline.Proofs.Run.Sandbox

/-!
# Who holds the pipes of a run

A new process begins with a copy of the table of the shell, and changes it while the shell goes on.
Tables are not shared, so the order in which this happens does not matter: in the end the write end
of a pipe is only held by the process of its stage and the read end only by the process of the next
stage, if that one reads it, and both as standard streams. Nothing here relies on descriptors being
closed when a program begins.
-/

namespace ShellPipeline

variable {α η : Type} {events : List (Event α η)} {launch : Launch α} {base : Descriptors α}
  {k fd : Nat} {o : Referent}

/-! ## The shell and the new processes -/

/-- A new process: the position of its stage, its table, and what it still asks for before its
program begins. -/
structure Child where
  index : Nat
  table : Descriptors Referent
  pending : List Rewiring

def Event.forked (d : Descriptors Referent) : Event α η → List Child
  | .spawn launch (.ok _) => [⟨launch.index, d, launch.resolved.rewirings⟩]
  | _ => []

/-- The shell during a run, with the processes that it has created. What these do to their tables
cannot be seen by the shell, so the events of the run are what they would be without them. -/
structure Family (α η : Type) where
  past : List (Event α η)
  future : List (Event α η)
  shell : Descriptors Referent
  children : List Child

def forks (base : Descriptors α) (events : List (Event α η)) : List Child :=
  events.zipIdx.flatMap fun q => q.1.forked (referents base (events.take q.2))

/-- The stage of a process and the table that it comes to, if all that it asks for succeeds. -/
def Child.fate (c : Child) : Nat × Option (Descriptors Referent) :=
  (c.index, c.table.steps? c.pending)

theorem forks_concat (base : Descriptors α) (events : List (Event α η)) (e : Event α η) :
    forks base (events ++ [e]) = forks base events ++ e.forked (referents base events) := by
  have hbefore : ∀ q ∈ events.zipIdx, (events ++ [e]).take q.2 = events.take q.2 := by
    intro q hq
    have hlt := List.snd_lt_of_mem_zipIdx hq
    exact List.take_append_of_le_length (by simpa using Nat.le_of_lt hlt)
  simp only [forks, List.zipIdx_append, List.flatMap_append]
  congr 1
  · exact List.flatMap_congr fun q hq => by rw [hbefore q hq]
  · simp

theorem mem_forks {c : Child} (h : c ∈ forks base events) :
    ∃ j launch process, events[j]? = some (.spawn launch (.ok process)) ∧
      c = ⟨launch.index, referents base (events.take j), launch.resolved.rewirings⟩ := by
  obtain ⟨⟨e, j⟩, hj, hc⟩ := List.mem_flatMap.mp h
  have he : events[j]? = some e := List.mem_zipIdx_iff_getElem?.mp hj
  cases e with
  | spawn launch outcome =>
      rcases outcome with f | process
      · cases hc
      · exact ⟨j, launch, process, he, List.mem_singleton.mp hc⟩
  | _ => cases hc

theorem index_forks (base : Descriptors α) (events : List (Event α η)) :
    (forks base events).map Child.index = created events := by
  induction events using List.reverseRecOn with
  | nil => rfl
  | append_singleton events e ih =>
      rw [forks_concat, List.map_append, ih, created_append]
      congr 1
      cases e with
      | spawn launch outcome => cases outcome <;> rfl
      | _ => rfl

/-- Waits and warnings create no process and change no table. -/
theorem enters_nothing (base : Descriptors α) (events : List (Event α η))
    {more : List (Event α η)} (hmore : ∀ e ∈ more, e.isSetup = false ∧ e.isAcquisition = false) :
    referents base (events ++ more) = referents base events ∧
      forks base (events ++ more) = forks base events := by
  induction more using List.reverseRecOn with
  | nil => simp
  | append_singleton more e ih =>
      obtain ⟨hreferents, hforks⟩ := ih fun e he => hmore e (List.mem_append_left _ he)
      obtain ⟨hsetup, hacquisition⟩ := hmore e (by simp)
      rw [← List.append_assoc, referents_concat, forks_concat, hreferents, hforks]
      cases e with
      | wait => exact ⟨rfl, List.append_nil _⟩
      | warn => exact ⟨rfl, List.append_nil _⟩
      | spawn => cases hacquisition
      | _ => cases hsetup

namespace Family

/-- One process goes on. A process that was created changes its own table only. -/
inductive Step : Family α η → Family α η → Prop
  | shell {past future : List (Event α η)} {e : Event α η} {d : Descriptors Referent}
      {children : List Child} :
      Step ⟨past, e :: future, d, children⟩
        ⟨past ++ [e], future, e.enter past.length d, children ++ e.forked d⟩
  | child {past future : List (Event α η)} {d table table' : Descriptors Referent}
      {before after : List Child} {index : Nat} {step : Rewiring} {pending : List Rewiring}
      (succeeds : table.step? step = some table') :
      Step ⟨past, future, d, before ++ ⟨index, table, step :: pending⟩ :: after⟩
        ⟨past, future, d, before ++ ⟨index, table', pending⟩ :: after⟩

/-- What the shell and the processes come to, in any order of their steps. -/
def Reaches : Family α η → Family α η → Prop :=
  Relation.ReflTransGen Step

/-- The shell has nothing to open, to close or to create any more, and every process has begun its
program. -/
structure Settled (F : Family α η) : Prop where
  shell : ∀ e ∈ F.future, e.isSetup = false ∧ e.isAcquisition = false
  children : ∀ c ∈ F.children, c.pending = []

/-- The shell before a run, with the events of the run ahead of it. -/
def start {σ : Type} [Host σ α η] (s : Shell σ α η) (p : Pipeline) : Family α η :=
  ⟨[], s.trace p, s.descriptors.inherited, []⟩

variable {F G : Family α η}

/-- What stays true of the shell and the processes: what has happened and what is ahead are the
events of the run, the table of the shell is what the events say, and every process comes to what
it came to from the beginning. -/
structure Consistent (base : Descriptors α) (events : List (Event α η)) (F : Family α η) :
    Prop where
  events : F.past ++ F.future = events
  shell : F.shell = referents base F.past
  children : F.children.map Child.fate = (forks base F.past).map Child.fate

/-- No step of the shell or of a process breaks the invariant. -/
theorem Consistent.step (h : Consistent base events F) (hstep : F.Step G) :
    Consistent base events G := by
  cases hstep with
  | @shell past future e d children =>
      obtain ⟨hevents, hshell, hchildren⟩ := h
      dsimp only at hevents hshell hchildren
      refine ⟨by simpa using hevents, by rw [hshell, referents_concat], ?_⟩
      rw [List.map_append, hchildren, forks_concat, List.map_append, hshell]
  | @child past future d table table' before after index step pending succeeds =>
      refine ⟨h.events, h.shell, ?_⟩
      rw [← h.children]
      have hfate : Child.fate ⟨index, table', pending⟩ =
          Child.fate ⟨index, table, step :: pending⟩ := by
        rw [Child.fate, Child.fate, Descriptors.steps?_cons, succeeds, Option.bind_some]
      simp only [List.map_append, List.map_cons, hfate]

/-- The invariant holds in every order of the steps. -/
theorem Consistent.reaches (h : Consistent base events F) (hreaches : F.Reaches G) :
    Consistent base events G := by
  induction hreaches with
  | refl => exact h
  | tail _ hstep ih => exact ih.step hstep

theorem consistent_start {σ : Type} [Host σ α η] (s : Shell σ α η) (p : Pipeline) :
    Consistent s.descriptors (s.trace p) (start s p) :=
  ⟨rfl, rfl, rfl⟩

/-- What is true of all processes that have been created by events. -/
theorem Consistent.mem_forks (h : Consistent base events F) {c : Child} (hc : c ∈ F.children) :
    ∃ j launch process, events[j]? = some (.spawn launch (.ok process)) ∧
      launch.index = c.index ∧
      (referents base (events.take j)).steps? launch.resolved.rewirings =
        c.table.steps? c.pending := by
  have hfate := List.mem_map_of_mem (f := Child.fate) hc
  rw [h.children] at hfate
  obtain ⟨c', hc', hsame⟩ := List.mem_map.mp hfate
  obtain ⟨j, launch, process, hj, rfl⟩ := ShellPipeline.mem_forks hc'
  obtain ⟨hindex, htable⟩ := Prod.mk.inj hsame
  have hlt := (List.getElem?_eq_some_iff.mp hj).1
  refine ⟨j, launch, process, ?_, hindex, ?_⟩
  · rw [← h.events, List.getElem?_append_left hlt, hj]
  · rw [← h.events, List.take_append_of_le_length (Nat.le_of_lt hlt), htable]

/-- At the end the table of the shell is what the events say, and there is a process for every stage
that was started. -/
theorem Consistent.settled (h : Consistent base events F) (hsettled : F.Settled) :
    F.shell = referents base events ∧ F.children.map Child.index = created events := by
  obtain ⟨hreferents, hforks⟩ := enters_nothing base F.past hsettled.shell
  rw [h.events] at hreferents hforks
  refine ⟨by rw [h.shell, hreferents], ?_⟩
  have hindex := congrArg (List.map Prod.fst) h.children
  rw [← hforks, List.map_map, List.map_map] at hindex
  exact hindex.trans (index_forks base events)

/-! ## Every run comes to its end -/

theorem reaches_end_of_shell (past future : List (Event α η)) (d : Descriptors Referent)
    (children : List Child) :
    ∃ d' children', Reaches ⟨past, future, d, children⟩ ⟨past ++ future, [], d', children'⟩ := by
  induction future generalizing past d children with
  | nil => exact ⟨d, children, by rw [List.append_nil]; exact .refl⟩
  | cons e future ih =>
      obtain ⟨d', children', hrest⟩ :=
        ih (past ++ [e]) (e.enter past.length d) (children ++ e.forked d)
      rw [List.append_assoc] at hrest
      exact ⟨d', children', .head .shell hrest⟩

theorem reaches_end_of_child (past future : List (Event α η)) (d : Descriptors Referent)
    (before after : List Child) {c : Child} {table : Descriptors Referent}
    (h : c.table.steps? c.pending = some table) :
    Reaches ⟨past, future, d, before ++ c :: after⟩
      ⟨past, future, d, before ++ ⟨c.index, table, []⟩ :: after⟩ := by
  obtain ⟨index, table₀, pending⟩ := c
  induction pending generalizing table₀ with
  | nil =>
      cases h
      exact .refl
  | cons step pending ih =>
      obtain ⟨table₁, hstep, hrest⟩ := Option.bind_eq_some_iff.mp h
      exact .head (.child hstep) (ih table₁ hrest)

theorem reaches_end_of_children (past future : List (Event α η)) (d : Descriptors Referent)
    (ended rest : List Child) (h : ∀ c ∈ rest, ∃ table, c.table.steps? c.pending = some table) :
    ∃ rest', Reaches ⟨past, future, d, ended ++ rest⟩ ⟨past, future, d, ended ++ rest'⟩ ∧
      ∀ c ∈ rest', c.pending = [] := by
  induction rest generalizing ended with
  | nil => exact ⟨[], .refl, by simp⟩
  | cons c rest ih =>
      obtain ⟨table, htable⟩ := h c List.mem_cons_self
      obtain ⟨rest', hrest, hpending⟩ := ih (ended ++ [⟨c.index, table, []⟩])
        fun c hc => h c (List.mem_cons_of_mem _ hc)
      rw [List.append_assoc, List.append_assoc] at hrest
      refine ⟨⟨c.index, table, []⟩ :: rest',
        (reaches_end_of_child past future d ended rest htable).trans hrest, ?_⟩
      rintro c' (_ | ⟨_, hc'⟩)
      · rfl
      · exact hpending c' hc'

/-- If every process can do all that it asks for, then all can come to their end. -/
theorem Consistent.exists_settled (h : Consistent base events F)
    (hforks : ∀ j launch process, events[j]? = some (.spawn launch (.ok process)) →
      ∃ table, (referents base (events.take j)).steps? launch.resolved.rewirings = some table) :
    ∃ G, F.Reaches G ∧ G.Settled := by
  obtain ⟨d, children, hshell⟩ := reaches_end_of_shell F.past F.future F.shell F.children
  obtain ⟨children', hchildren, hpending⟩ :=
    reaches_end_of_children (F.past ++ F.future) [] d [] children fun c hc => by
      obtain ⟨j, launch, process, hj, -, htable⟩ := (h.reaches hshell).mem_forks hc
      rw [← htable]
      exact hforks j launch process hj
  exact ⟨_, hshell.trans hchildren, by simp, hpending⟩

/-- The pipe of the stage at position `i`, which the event at position `k` made, is held by nobody
but the process of that stage, which writes it, and the process of the next stage, which reads it
if it has no input file. -/
structure Confines (F : Family α η) (stages : List Stage) (k i : Nat) : Prop where
  shell : ∀ fd, F.shell.get? fd ≠ some (.readEnd k) ∧ F.shell.get? fd ≠ some (.writeEnd k)
  writer : ∀ c ∈ F.children, ∀ fd,
    c.table.get? fd = some (.writeEnd k) ↔ c.index = i ∧ fd = standardOutput
  reader : ∀ c ∈ F.children, ∀ fd,
    c.table.get? fd = some (.readEnd k) ↔ c.index = i + 1 ∧ fd = standardInput ∧
      ∃ stage, stages[i + 1]? = some stage ∧ stage.input = none

end Family

/-! ## Pipes at the end of a run -/

theorem getElem?_of_take {β : Type} {l : List β} {j k : Nat} {b : β} (h : (l.take j)[k]? = some b) :
    l[k]? = some b := by
  rw [List.getElem?_take] at h
  split at h
  · exact h
  · cases h

namespace Shell

variable {σ : Type} [Host σ α η] {s : Shell σ α η} {p : Pipeline} {F : Family α η}
  {table : Descriptors Referent} {i j readEnd writeEnd : Nat}

/-- The write end of a pipe is the standard output of the stage that the pipe was made for, and
nothing else. -/
theorem writes_iff (h : Outfit p.stages ((s.trace p).take j) launch table)
    (hstage : p.stages[launch.index]? = some launch.stage)
    (hk : (s.trace p)[k]? = some (.makePipe i (.ok (readEnd, writeEnd)))) :
    table.get? fd = some (.writeEnd k) ↔ launch.index = i ∧ fd = standardOutput := by
  constructor
  · intro hfd
    rcases h.eq_standard hfd (by simp) with rfl | rfl
    · rcases h.input_cases with hin | ⟨k', hin⟩ | ⟨k', i', r, w, -, -, -, hin⟩ <;>
        cases hfd.symm.trans hin
    · rcases h.output_cases hstage with hout | ⟨k', hout⟩ | ⟨k', r, w, hk', hout⟩ <;>
        cases hfd.symm.trans hout
      cases hk.symm.trans (getElem?_of_take hk')
      exact ⟨rfl, rfl⟩
  · rintro ⟨rfl, rfl⟩
    have hlt := lt_lastIndex_of_makePipe (List.mem_of_getElem? hk)
    obtain ⟨k', r, w, hk', hout⟩ := h.piped (Nat.add_lt_of_lt_sub hlt)
    rw [hout, makePipe_unique hk (getElem?_of_take hk')]

/-- The read end of a pipe is the standard input of the next stage, unless that reads a file, and
nothing else. -/
theorem reads_iff (h : Outfit p.stages ((s.trace p).take j) launch table)
    (hstage : p.stages[launch.index]? = some launch.stage)
    (hk : (s.trace p)[k]? = some (.makePipe i (.ok (readEnd, writeEnd)))) :
    table.get? fd = some (.readEnd k) ↔
      launch.index = i + 1 ∧ fd = standardInput ∧ launch.stage.input = none := by
  constructor
  · intro hfd
    rcases h.eq_standard hfd (by simp) with rfl | rfl
    · rcases h.input_cases with hin | ⟨k', hin⟩ | ⟨k', i', r, w, hindex, hnone, hk', hin⟩ <;>
        cases hfd.symm.trans hin
      cases hk.symm.trans (getElem?_of_take hk')
      exact ⟨hindex, rfl, hnone⟩
    · rcases h.output_cases hstage with hout | ⟨k', hout⟩ | ⟨k', r, w, -, hout⟩ <;>
        cases hfd.symm.trans hout
  · rintro ⟨hindex, rfl, hnone⟩
    obtain ⟨k', r, w, hk', hin⟩ := h.later hnone i hindex
    rw [hin, makePipe_unique hk (getElem?_of_take hk')]

/-- What a process has come to when the shell and all processes are settled. -/
theorem exists_outfit (hin : s.descriptors.isOpen standardInput = true)
    (hout : s.descriptors.isOpen standardOutput = true)
    (hreaches : (Family.start s p).Reaches F) (hsettled : F.Settled) {c : Child}
    (hc : c ∈ F.children) :
    ∃ j launch process, (s.trace p)[j]? = some (.spawn launch (.ok process)) ∧
      launch.index = c.index ∧ p.stages[launch.index]? = some launch.stage ∧
      (referents s.descriptors ((s.trace p).take j)).steps? launch.resolved.rewirings =
        some c.table ∧
      Outfit p.stages ((s.trace p).take j) launch c.table := by
  obtain ⟨j, launch, process, hj, hindex, htable⟩ :=
    ((Family.consistent_start s p).reaches hreaches).mem_forks hc
  rw [hsettled.children c hc, Descriptors.steps?_nil] at htable
  have hpoised := poised_trace s p hj
  have hwired : Wired p.stages ((s.trace p).take j) launch :=
    ((placedSoFar_trace s p).placed j _ hj).1
  obtain ⟨table, hsteps, hrewired⟩ := hpoised.exists_rewired hin hout
  obtain rfl : table = c.table := Option.some.inj (hsteps.symm.trans htable)
  exact ⟨j, launch, process, hj, hindex, hwired.stage, hsteps,
    hwired.outfit hpoised hin hout hrewired⟩

/-- When all is settled, the shell holds no pipe that it made. -/
theorem shell_holds_no_pipe (hreaches : (Family.start s p).Reaches F) (hsettled : F.Settled)
    (hfd : F.shell.get? fd = some o) : o = .inherited fd := by
  rw [(((Family.consistent_start s p).reaches hreaches).settled hsettled).1] at hfd
  rcases get?_referents_eq_some hfd with rfl | ⟨k, e, hsince, -⟩
  · rfl
  · obtain ⟨notes, hnotes, hledger⟩ := (Accounts.run s p).ledger
    have hlive := hsince.mem_live
    rw [trace_eq_of_events hnotes, hledger.live_eq] at hlive
    simp at hlive

theorem confines (hin : s.descriptors.isOpen standardInput = true)
    (hout : s.descriptors.isOpen standardOutput = true)
    (hreaches : (Family.start s p).Reaches F) (hsettled : F.Settled)
    (hk : (s.trace p)[k]? = some (.makePipe i (.ok (readEnd, writeEnd)))) :
    F.Confines p.stages k i where
  shell fd := by
    constructor <;> intro hfd <;> cases shell_holds_no_pipe hreaches hsettled hfd
  writer c hc fd := by
    obtain ⟨j, launch, process, -, hindex, hstage, -, houtfit⟩ :=
      exists_outfit hin hout hreaches hsettled hc
    rw [writes_iff houtfit hstage hk, hindex]
  reader c hc fd := by
    obtain ⟨j, launch, process, -, hindex, hstage, -, houtfit⟩ :=
      exists_outfit hin hout hreaches hsettled hc
    rw [reads_iff houtfit hstage hk, hindex]
    refine and_congr_right fun hnext => and_congr_right fun _ => ?_
    rw [hindex, hnext] at hstage
    simp [hstage]

/-- In whatever order the shell and the processes that it creates take their steps, they can come
to their end. When the shell has nothing to open, to close or to create any more and all programs
have begun, there is one process for each stage that was started, and every pipe is held by the
process of its stage, as standard output, and by the process of the next stage, as standard input
unless that stage names an input file, and by nobody else. The tables that are spoken of are those
of the run: each process begins with what the shell holds then and ends with what it was to be
given. -/
theorem run_confines_pipes (s : Shell σ α η) (p : Pipeline)
    (hin : s.descriptors.isOpen standardInput = true)
    (hout : s.descriptors.isOpen standardOutput = true) :
    ∃ (launched : Nat) (value : Referent → Option α),
      launched ≤ p.length ∧ created (s.trace p) = List.range launched ∧
      ∀ F : Family α η, (Family.start s p).Reaches F →
        (∀ launch outcome rest, F.future = .spawn launch outcome :: rest →
          Denotes value F.shell launch.descriptors) ∧
        (∃ G : Family α η, F.Reaches G ∧ G.Settled) ∧
        (F.Settled →
          F.children.map Child.index = List.range launched ∧
          (∀ k i readEnd writeEnd,
            (s.trace p)[k]? = some (.makePipe i (.ok (readEnd, writeEnd))) →
              F.Confines p.stages k i) ∧
          Denotes value F.shell (s.run p).2.descriptors ∧
          ∀ c ∈ F.children, ∃ (launch : Launch α) (process : η) (d : Descriptors α),
            .spawn launch (.ok process) ∈ s.trace p ∧ launch.index = c.index ∧
              launch.childDescriptors = .ok d ∧ Denotes value c.table d) := by
  obtain ⟨launched, hle, hrange⟩ := exists_created s p
  obtain ⟨value, hend, hcopies⟩ := (follows_trace s p).exists_value
  refine ⟨launched, value, hle, hrange, fun F hreaches => ?_⟩
  have hconsistent := (Family.consistent_start s p).reaches hreaches
  refine ⟨?_, ?_, fun hsettled => ⟨?_, ?_, ?_, ?_⟩⟩
  · intro launch outcome rest hfuture
    have hevents := hconsistent.events
    rw [hfuture] at hevents
    have hcopy := hcopies F.past.length launch outcome (by rw [← hevents]; simp)
    rwa [← hevents, List.take_left, ← hconsistent.shell] at hcopy
  · refine hconsistent.exists_settled fun j launch process hj => ?_
    obtain ⟨table, hsteps, -⟩ := (poised_trace s p hj).exists_rewired hin hout
    exact ⟨table, hsteps⟩
  · rw [(hconsistent.settled hsettled).2, hrange]
  · exact fun k i readEnd writeEnd hk => confines hin hout hreaches hsettled hk
  · rw [(hconsistent.settled hsettled).1]
    exact hend
  · intro c hc
    obtain ⟨j, launch, process, hj, hindex, -, hsteps, -⟩ :=
      exists_outfit hin hout hreaches hsettled hc
    obtain ⟨d, hd, hdenotes⟩ := (hcopies j launch _ hj).steps? hsteps
    exact ⟨launch, process, d, List.mem_of_getElem? hj, hindex,
      Descriptors.rewire_eq_ok_iff.mpr hd, hdenotes⟩

/-- Three commands, of which the last reads a file and not the pipe that is written to it. -/
def unread : Pipeline where
  stages := [(Stage.ofArgv ["cat"]).withOutput .pipe, (Stage.ofArgv ["cat"]).withOutput .pipe,
    (Stage.ofArgv ["cat"]).withInput "old"]
  wellWired := by decide

def alone : Shell Sandbox Channel Nat where
  descriptors := ⟨[some .terminal, some .output, some .output]⟩
  host :=
    { setting :=
        { locate := fun _ => 0
          programs := fun _ bytes => bytes
          refusals := fun n => if n = 7 then some .tryAgain else none }
      contents := fun _ => some [] }

/-- The pipe of a stage that could not be started is held by nobody. -/
theorem run_confines_pipes_alone :
    (∃ F : Family Channel Nat, (Family.start alone unread).Reaches F ∧ F.Settled) ∧
    (alone.trace unread)[3]? = some (.makePipe 1 (.ok (4, 5))) ∧
    ∀ F : Family Channel Nat, (Family.start alone unread).Reaches F → F.Settled →
      F.children.map Child.index = [0] ∧ F.Confines unread.stages 3 1 := by
  obtain ⟨launched, value, -, hrange, hfamily⟩ := run_confines_pipes alone unread rfl rfl
  have hcreated : created (alone.trace unread) = [0] := rfl
  refine ⟨(hfamily _ .refl).2.1, rfl, fun F hreaches hsettled => ?_⟩
  obtain ⟨hchildren, hconfines, -⟩ := (hfamily F hreaches).2.2 hsettled
  exact ⟨by rw [hchildren, ← hrange, hcreated], hconfines 3 1 4 5 rfl⟩

end Shell

end ShellPipeline
