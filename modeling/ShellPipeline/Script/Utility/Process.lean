import ShellPipeline.Script.Utility

/-!
# Utilities for processes

Signals are sent, processes are waited for, and jobs are shown.
-/

namespace ShellPipeline

namespace Script

/-- The name of a signal, without the beginning that all of them share. -/
def signalName (n : Nat) : String :=
  if n = 0 then "EXIT"
  else if n = 16 then "16"
  else match Signal.named.lookup n with
    | some (name, _) => name
    | none =>
      if n = 34 then "RTMIN"
      else if n = 64 then "RTMAX"
      else if 34 < n && n < 50 then "RTMIN+" ++ decimal (n - 34)
      else if 50 ≤ n && n < 64 then "RTMAX-" ++ decimal (64 - n)
      else decimal n

def upper (s : String) : String :=
  String.ofList (s.toList.map Char.toUpper)

/-- The signal with a number that is written in digits. -/
def signalNumber? (word : String) : Option Nat :=
  (readDecimal? word.toList).filter (· ≤ Signal.maximum)

/-- The signal that a word names, from a number on. -/
def signal? (least : Nat) (word : String) : Option Nat :=
  match signalNumber? word with
  | some n => some n
  | none => (List.range (Signal.maximum + 1)).find? fun n =>
    least ≤ n && upper word = signalName n

namespace Act

def killUsage : String :=
  "Usage: kill [-s sigspec | -signum | -sigspec] [pid | job]... or\nkill -l [exitstatus]"

def findJob (word : String) : Act ScriptJob := do
  let jobs := (← get).jobs
  let wanted := (word.toList.drop 1)
  let found := match wanted with
    | [] => jobs.head?
    | ['%'] => jobs.head?
    | ['+'] => jobs.head?
    | ['-'] => jobs[1]?
    | cs => (readDecimal? cs).bind fun n => jobs.find? (·.number = n)
  match found with
  | some j => return j
  | none =>
    if wanted.isEmpty || wanted = ['%'] || wanted = ['+'] then fail "No current job"
    else if wanted = ['-'] then fail "No previous job"
    else fail ("No such job: " ++ word)

def findProcess (word : String) : Act Nat := do
  if word.startsWith "%" then
    return ((← findJob word).processes.head?.map JobProcess.number).getD 0
  if word.startsWith "-" then
    let _ ← number (String.ofList (word.toList.drop 1))
    return 0
  number word

/-- Sends a signal to processes. Answers the status. -/
def signalAll (signal : Signal) : List String → Act Nat
  | [] => pure 0
  | word :: rest => do
    let process ← findProcess word
    let status ← match ← call (.signal process signal) with
      | .ok () => pure 0
      | .error e => do
        warn (e.wording ++ "\n")
        pure 1
    return max status (← signalAll signal rest)

/-- Writes the names of signals, or the one that a word stands for. -/
def listSignals : List String → Act Nat
  | [] => do
    print "0\n"
    for n in List.range Signal.maximum do
      print (signalName (n + 1) ++ "\n")
    return 0
  | word :: _ => do
    let n ← number word
    let n := if 128 < n then n - 128 else n
    if n = 0 || Signal.maximum < n then
      fail ("invalid signal number or exit status: " ++ word)
    print (signalName n ++ "\n")
    return 0

/-- Uses the options of `kill`. Answers the signal and whether signals are listed. -/
def useKillOptions : List (Char × String) → Act (Option Signal × Bool)
  | [] => pure (none, false)
  | ('s', word) :: rest => do
    match signal? 1 word with
    | none => fail ("invalid signal number or name: " ++ word)
    | some n =>
      let (later, lists) ← useKillOptions rest
      return (some (later.getD n), lists)
  | _ :: rest => do
    return ((← useKillOptions rest).1, true)

/-- The letters that stand for the state of a job. -/
def jobState (j : ScriptJob) : String :=
  if !j.isDone then "Running"
  else match j.processes.getLast?.bind JobProcess.exit with
    | some (.signaled signal) => Signal.wording signal.toNatClampNeg
    | some (.exited code) =>
      let n := statusOf (.exited code)
      if n = 0 then "Done" else "Done(" ++ decimal n ++ ")"
    | none => "Running"

def fill (width : Nat) (s : String) : String :=
  s ++ String.ofList (List.replicate (width - s.length) ' ')

def jobLine (mark : Char) (numbers : Bool) (j : ScriptJob) : String :=
  let process := if numbers then
      decimal ((j.processes.head?.map JobProcess.number).getD 0) ++ " "
    else ""
  let head := "[" ++ decimal j.number ++ "] " ++ mark.toString ++ " " ++ process
  fill 33 (head ++ jobState j) ++ "\n"

/-- Collects processes that have ended, without waiting, at most so many. -/
def collect : Act Unit := do
  keepOn (m := Act) (fun _ => do
    match ← call (.awaitChild none false) with
    | .ok (some (number, exit)) =>
      noteExit number exit
      return ((), true)
    | _ => return ((), false)) roundLimit ()

def showJobs (onlyProcess numbers : Bool) (jobs : List ScriptJob) : Act Unit := do
  let all := (← get).jobs
  for j in jobs do
    if onlyProcess then
      print (decimal ((j.processes.head?.map JobProcess.number).getD 0) ++ "\n")
    else
      let mark := if (all.head?.map ScriptJob.number) = some j.number then '+'
        else if (all[1]?.map ScriptJob.number) = some j.number then '-' else ' '
      print (jobLine mark numbers j)
    if j.isDone then
      modify fun s => { s with jobs := s.jobs.filter (·.number != j.number) }

/-- What came of a wait. -/
inductive Waited where
  | over
  /-- A signal arrived whose trap is to be run. -/
  | interrupted (signal : Signal)

def waitUntil (holds : State → Bool) : Act Waited :=
  keepOn (m := Act) (fun _ => do
    collect
    noteSignals
    let s ← get
    if let signal :: _ := s.pending then return (.interrupted signal, false)
    if holds s then return (.over, false)
    match ← call (.awaitChild none true) with
    | .ok (some (number, exit)) =>
      noteExit number exit
      return (.over, true)
    | .ok none => return (.over, false)
    | .error e => return (.over, e = .interrupted)) roundLimit .over

def markWaited (holds : ScriptJob → Bool) : Act Unit :=
  modify fun s =>
    { s with jobs := s.jobs.map fun j => if holds j then { j with waited := true } else j }

/-- Waits for processes that are named. Answers the status of the last one. -/
def waitNamed (status : Nat) : List String → Act Nat
  | [] => pure status
  | word :: rest => do
    let job ← if word.startsWith "%" then do pure (some (← findJob word))
      else do
        let n ← number word
        pure ((← get).jobs.find? fun j => (j.processes.getLast?.map JobProcess.number) = some n)
    match job with
    | none => waitNamed status rest
    | some job =>
      let current (s : State) : Option ScriptJob := s.jobs.find? (·.number = job.number)
      match ← waitUntil fun s => (current s).all ScriptJob.isDone with
      | .interrupted signal => return 128 + signal
      | .over =>
        markWaited (·.number = job.number)
        let exit := (current (← get)).bind fun j => j.processes.getLast?.bind JobProcess.exit
        waitNamed (exit.elim 0 statusOf) rest

end Act

namespace Utility

def kill : Utility :=
  .ofWords fun words => do
    match words with
    | [] => Act.fail Act.killUsage
    | word :: rest =>
      let direct := if word.startsWith "-" then signal? 1 (String.ofList (word.toList.drop 1))
        else none
      match direct with
      | some signal =>
        if rest.isEmpty then Act.fail Act.killUsage
        Act.signalAll signal rest
      | none =>
        let (options, rest) ← Act.options "ls:" words
        let (signal, lists) ← Act.useKillOptions options
        if lists then
          if signal.isSome then Act.fail Act.killUsage
          Act.listSignals rest
        else
          if rest.isEmpty then Act.fail Act.killUsage
          Act.signalAll (signal.getD Signal.terminate) rest

def wait : Utility :=
  .ofWords fun words => do
    let words ← Act.noOptions words
    if !words.isEmpty then return ← Act.waitNamed 127 words
    match ← Act.waitUntil fun s => s.jobs.all ScriptJob.isDone with
    | .interrupted signal => return 128 + signal
    | .over =>
      Act.markWaited fun _ => Bool.true
      return 0

def jobs : Utility :=
  .ofWords fun words => do
    let (options, words) ← Act.options "lp" words
    Act.collect
    let last := options.getLast?.map Prod.fst
    let all ← if words.isEmpty then pure (← get).jobs else words.mapM Act.findJob
    Act.showJobs (last = some 'p') (last = some 'l') all
    return 0

def resume : Utility :=
  .ofWords fun words => do
    let words ← Act.noOptions words
    let _ ← Act.findJob (words.headD "%")
    Act.fail ("job " ++ words.headD "%" ++ " not created under job control")

end Utility

end Script

end ShellPipeline
