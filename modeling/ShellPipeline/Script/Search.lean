import ShellPipeline.Process.Search
import ShellPipeline.Script.Job

/-!
# Looking for commands

A name stands for a function, for a utility of the interpreter or for a program in one of the
directories of a search path. What was found is remembered. After the working directory has
changed, only the directories whose paths do not begin at the root are looked at again.
-/

namespace ShellPipeline

namespace Script

/-- What a name stands for. -/
inductive Meaning where
  | function (body : Command)
  | utility
  /-- A program, with the paths that are tried one after the other. -/
  | program (paths : List String)
  | unknown (e : Errno)

/-- The search path that is used if none is set. -/
def standardPath : String :=
  "/usr/local/sbin:/usr/local/bin:/usr/sbin:/usr/bin:/sbin:/bin"

def programWording (e : Errno) : String :=
  if isAbsence e then "not found" else e.wording

def programStatus (e : Errno) : Nat :=
  if isAbsence e || e = .tooManyLinks || e = .nameTooLong then 127 else 126

namespace State

def searchPath (s : State) : String :=
  (s.value? "PATH").getD ""

def isUtility (name : String) : Bool :=
  specialCommands.contains name || plainCommands.contains name

def remember (s : State) (name path : String) : State :=
  if s.found.any (·.name = name) then
    { s with found := s.found.map fun p => if p.name = name then { name, path } else p }
  else { s with found := s.found ++ [{ name, path }] }

def forget (s : State) (name : String) : State :=
  { s with found := s.found.filter (·.name != name) }

def hasTraps (s : State) : Bool :=
  s.traps.any (·.2 != "")

end State

namespace Act

/-- Looks for a file among paths. A path that was found before is taken as it is if it begins at the
root, and until it is reached no other such path is looked at. -/
def searchFile : Option String → Errno → List String → Act (Except Errno String)
  | _, e, [] => pure (.error e)
  | known, e, path :: rest => do
    let isNext := known = some path
    if known.isSome && path.startsWith "/" then
      if isNext then return .ok path
      return ← searchFile known e rest
    let known := if isNext then none else known
    match ← call (.describe path true) with
    | .ok info =>
      if info.kind = .regular then return .ok path
      searchFile known .accessDenied rest
    | .error fault => searchFile known (if isAbsence fault then e else fault) rest

/-- The program that a name stands for in a search path, which may be another one than that of the
interpreter. -/
def findProgram (other : Option String) (name : String) : Act Meaning := do
  let s ← get
  let paths := programPaths (other.getD s.searchPath) name
  let from? (path : String) : Meaning := .program (paths.dropWhile (· != path))
  let known := if other.isSome then none else s.found.find? (·.name = name)
  match known with
  | some p => if !p.isOld then return from? p.path
  | none => pure ()
  match ← searchFile (known.map FoundProgram.path) .noEntry paths with
  | .ok path =>
    if other.isNone then modify fun s => s.remember name path
    return from? path
  | .error e =>
    if other.isNone then modify fun s => s.forget name
    return .unknown e

def meaningOf (functions : Bool) (other : Option String) (name : String) : Act Meaning := do
  if isPath name then return .program [name]
  let s ← get
  match if functions then s.functions.lookup name else none with
  | some body => return .function body
  | none => if State.isUtility name then return .utility else findProgram other name

/-- Closes the descriptors that are of use only to the interpreter. -/
def closeOwn : Act Unit := do
  let s ← get
  for fd in s.movedDescriptors ++ (s.inputs.filterMap Input.fd).filter (· != 0) do
    let _ ← call (.close fd)

/-- The program that reads files without a mark as scripts. -/
def interpreterPath : String := "/bin/sh"

/-- Becomes the program of one path, or the interpreter of it. -/
def becomeOne (path : String) (words : List String) : Act Errno := do
  let environment := (← get).environment
  let e ← task (Task.execute path words environment)
  if e != .execFormat then return e
  task (Task.execute interpreterPath (interpreterPath :: path :: words.drop 1) environment)

/-- Becomes the first program of some paths that can be run. Answers why there is none. -/
def becomeFirst (words : List String) : Errno → List String → Act Errno
  | e, [] => pure e
  | e, path :: rest => do
    let fault ← becomeOne path words
    becomeFirst words (if isAbsence fault then e else fault) rest

def becomeProgram {α : Type} (paths words : List String) : Act α := do
  closeOwn
  let e ← becomeFirst words .noEntry paths
  warn (words.headD "" ++ ": " ++ programWording e)
  modify fun s => { s with status := programStatus e }
  throw .ended

end Act

end Script

end ShellPipeline
