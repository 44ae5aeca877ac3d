import ShellPipeline.Script.Grammar
import ShellPipeline.Tool.Basic

/-!
# The state of an interpreter

What an interpreter of scripts remembers: variables, functions and aliases, its arguments and
options, what it does about signals, the processes that it started, the descriptors that it has to
restore, and the texts that it is reading.
-/

namespace ShellPipeline

namespace Script

/-- A variable. -/
structure Variable where
  value : Option String := none
  exported : Bool := false
  isReadOnly : Bool := false
deriving DecidableEq, Repr

/-- Something that a function or a command hides until it ends. -/
inductive Hidden where
  | named (name : String) (former : Option Variable)
  | options (letters : List Char)
deriving DecidableEq, Repr

/-- Why commands are passed over. -/
inductive Skip where
  | none
  | leaveLoop
  /-- Loops go on with the next round. -/
  | nextRound
  /-- A function ends, perhaps with the status that it had. -/
  | leaveFunction (keepsStatus : Bool)
deriving DecidableEq, Repr

/-- A process of a job. -/
structure JobProcess where
  number : Nat
  exit : Option Exit := none
deriving DecidableEq, Repr

/-- Processes that were started together. -/
structure ScriptJob where
  /-- The number by which it is known. -/
  number : Nat
  processes : List JobProcess
  waited : Bool := false
deriving DecidableEq, Repr

def ScriptJob.isDone (j : ScriptJob) : Bool :=
  j.processes.all (·.exit.isSome)

/-- What a descriptor was before a redirection. -/
inductive Former where
  | closed
  | moved (fd : Nat)
deriving DecidableEq, Repr

/-- A text that is being read. -/
structure Input where
  /-- The lines that have been looked at. -/
  source : Source
  ahead : List Char := []
  /-- The descriptor from which more can be read. -/
  fd : Option Nat := none
  /-- Whether the end of it was reached. -/
  ended : Bool := false

/-- A program that was found. -/
structure FoundProgram where
  /-- The name by which it was looked for. -/
  name : String
  path : String
  /-- Whether the working directory has changed since. -/
  isOld : Bool := false
deriving DecidableEq, Repr

/-- The state of an interpreter. -/
structure State where
  /-- The name of the script, which stands in its messages. -/
  name : String
  /-- The command of its own that is running. -/
  caller : Option String := none
  line : Nat := 0
  status : Nat := 0
  /-- The status with which it exits although other commands follow. -/
  finalStatus : Option Nat := none
  /-- The status of the last command whose output was taken. -/
  outputStatus : Nat := 0
  /-- The letters of the options that are set. -/
  options : List Char := []
  bindings : List (String × Variable) := []
  /-- The variables that functions and commands hide, the innermost first. -/
  hidden : List (List Hidden) := []
  functions : List (String × Command) := []
  aliases : List (String × String) := []
  arguments : List String := []
  /-- The number of the argument in which the next option is looked for. -/
  optionIndex : Nat := 1
  /-- The place within the argument before it up to which options were read. -/
  optionPlace : Option Nat := none
  /-- The number of loops around a command. -/
  loops : Nat := 0
  /-- The number of functions around a command. -/
  calls : Nat := 0
  skip : Skip := .none
  /-- The number of loops that it concerns. -/
  skipCount : Nat := 0
  /-- What is done about signals. Zero stands for the end. -/
  traps : List (Signal × String) := []
  /-- The signals that were ignored from the beginning, as far as that is known. -/
  ignored : List Signal := []
  /-- The signals about which something was said. -/
  handled : List Signal := []
  /-- The signals that arrived and were not looked after. -/
  pending : List Signal := []
  /-- Whether it is a copy of another interpreter. -/
  isCopy : Bool := false
  number : Nat := 0
  /-- The number of the last process that was not waited for. -/
  lastBackground : Option Nat := none
  jobs : List ScriptJob := []
  directory : Option String := none
  /-- The path of the working directory without links. -/
  realDirectory : Option String := none
  /-- What descriptors were before redirections, the innermost first. -/
  former : List (List (Nat × Former)) := []
  traceDescriptor : Nat := 2
  /-- Whether such a message is being made. -/
  isTracing : Bool := false
  /-- The texts that are being read, the innermost first. -/
  inputs : List Input := []
  documents : Documents := []
  nextDocument : Nat := 0
  /-- What was put out and has not been written. -/
  held : Queue := {}
  writeFault : Bool := false
  found : List FoundProgram := []

namespace State

def has (s : State) (option : Char) : Bool :=
  s.options.contains option

def lookup? (s : State) (name : String) : Option Variable :=
  s.bindings.lookup name

def value? (s : State) (name : String) : Option String :=
  (s.lookup? name).bind Variable.value

/-- Puts a variable in the place of another one with the same name. -/
def putVariable (s : State) (name : String) (v : Variable) : State :=
  let bindings :=
    if (s.bindings.lookup name).isSome then
      s.bindings.map fun x => if x.1 = name then (name, v) else x
    else s.bindings ++ [(name, v)]
  { s with bindings }

def dropVariable (s : State) (name : String) : State :=
  { s with bindings := s.bindings.filter (·.1 != name) }

def separators (s : State) : List Char :=
  match s.value? "IFS" with
  | some value => value.toList
  | none => [' ', '\t', '\n']

/-- The number of groups into which variables are sorted. -/
def groupCount : Nat := 39

def groupAmong (count : Nat) (name : String) : Nat :=
  let cs := name.toList
  (cs.foldl (fun n c => n + c.toNat) (16 * (cs.headD '\x00').toNat)) % count

def groupOf (name : String) : Nat :=
  groupAmong groupCount name

def environment (s : State) : Environment :=
  let given := s.bindings.filterMap fun (name, v) =>
    if v.exported then v.value.map fun value => (name, value) else none
  given.mergeSort fun a b => groupOf a.1 ≤ groupOf b.1

def movedDescriptors (s : State) : List Nat :=
  s.former.flatten.filterMap fun x => match x.2 with
    | .moved fd => some fd
    | .closed => none

def reading (s : State) (source : Source) : Reading :=
  { source, aliases := s.aliases, documents := [], nextDocument := s.nextDocument }

end State

/-- Why the commands of a script do not go on. -/
inductive Stop where
  | error
  | exit
  /-- The interpreter has nothing more to do. -/
  | ended
deriving DecidableEq, Repr

abbrev Act := ExceptT Stop (StateT State Task)

namespace Act

def task {α : Type} (t : Task α) : Act α :=
  ExceptT.lift (StateT.lift t)

def call (c : SystemCall) : Act (Answer c) :=
  task (Task.call c)

def writeTo (fd : Nat) (text : String) : Act Unit := do
  let _ ← task (Task.writeAll fd (bytesOfWord text))

def warn (message : String) : Act Unit := do
  let s ← get
  let caller := s.caller.elim "" (· ++ ": ")
  writeTo standardError (s.name ++ ": " ++ decimal s.line ++ ": " ++ caller ++ message ++ "\n")

def failWith {α : Type} (status : Nat) (message : String) : Act α := do
  warn message
  modify fun s => { s with status }
  throw .error

def fail {α : Type} (message : String) : Act α :=
  failWith 2 message

/-- The number of bytes that are held back at most. -/
def holdSize : Nat := 8192

def flush : Act Unit := do
  let s ← get
  if s.held.size != 0 then
    set { s with held := {} }
    match ← task (Task.writeAll standardOutput s.held.toBytes) with
    | .ok () => return
    | .error _ => modify fun s => { s with writeFault := true }

def put (bytes : Bytes) : Act Unit := do
  modify fun s => { s with held := s.held.add bytes }
  if holdSize ≤ (← get).held.size then flush

def print (text : String) : Act Unit :=
  put (bytesOfWord text)

def noteSignals : Act Unit := do
  let arrived ← call .arrived
  unless arrived.isEmpty do
    modify fun s => { s with pending := s.pending ++ arrived.filter (!s.pending.contains ·) }

/-- Does something and afterwards something else, whether or not the first stops. -/
def andFinally {α : Type} (a : Act α) (b : Act Unit) : Act α :=
  tryCatch (do
    let r ← a
    b
    return r) fun e => do
      b
      throw e

end Act

/-- How a command is run. -/
structure RunMode where
  /-- Whether the interpreter has nothing to do after it. -/
  isLast : Bool := false
  isTested : Bool := false
deriving DecidableEq, Repr

/-- The runner of the commands within others. -/
structure Runner where
  run : RunMode → Command → Act Nat

end Script

end ShellPipeline
