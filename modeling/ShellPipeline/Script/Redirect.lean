import ShellPipeline.Script.Expand
import ShellPipeline.Script.Job

/-!
# Redirections

A command may read and write other files than the interpreter. The descriptors that its redirections
replace are moved out of the way and come back after it. A document is read from a pipe.
-/

namespace ShellPipeline

namespace Script

/-- A redirection whose words are known. -/
inductive Target where
  | file (how : Opening) (path : String)
  | descriptor (other : Option Nat)
  | document (number : Nat)

/-- The lowest descriptor to which others are moved. -/
def firstMoved : Nat := 10

/-- The size of a document that a pipe is sure to hold. -/
def documentSize : Nat := 4096

def fileWording (creates : Bool) (e : Errno) : String :=
  if e = .noEntry || e = .notDirectory then
    if creates then "Directory nonexistent" else "No such file"
  else e.wording

namespace Act

def failReading {α : Type} (message : String) : Act α := do
  modify fun s => { s with line := (s.inputs.head?.map (·.source.line)).getD s.line }
  fail ("Syntax error: " ++ message)

def readDescriptor (text : String) : Act (Option Nat) := do
  match text.toList with
  | ['-'] => return none
  | [c] =>
    if c.isDigit then return some (digitValue c)
    failReading "Bad fd number"
  | _ => failReading "Bad fd number"

def targetOf (x : Expander) (r : Redirection) : Act (Nat × Target) := do
  let text (w : Word) : Act String := do
    return String.ofList (Piece.text (← x.expand { tilde := true } w))
  match r with
  | .file fd how path => return (fd, .file how (← text path))
  | .descriptor fd other => return (fd, .descriptor other)
  | .named fd w => return (fd, .descriptor (← readDescriptor (← text w)))
  | .document fd number => return (fd, .document number)

/-- Opens a file for writing without touching one that exists. -/
def openProtected (path : String) : Act (Except Errno Nat) := do
  match ← call (.describe path true) with
  | .error _ => call (.openFile path
      { writes := true, creates := some Access.defaultBits, exclusive := true })
  | .ok info =>
    if info.kind = .regular then return .error .alreadyExists
    call (.openFile path { writes := true })

def openTarget (how : Opening) (path : String) : Act Nat := do
  let opened ← match how with
    | .read => call (.openFile path .reading)
    | .both => call (.openFile path
        { reads := true, writes := true, creates := some Access.defaultBits })
    | .append => call (.openFile path .appending)
    | .overwrite => call (.openFile path .writing)
    | .write =>
      if (← get).has 'C' then openProtected path else call (.openFile path .writing)
  match opened with
  | .ok fd => return fd
  | .error e =>
    let verb := if how = .read then "open" else "create"
    fail ("cannot " ++ verb ++ " " ++ path ++ ": " ++ fileWording (how != .read) e)

def makePipe : Act (Nat × Nat) := do
  match ← call .makePipe with
  | .ok ends => return ends
  | .error _ => fail "Pipe call failed"

def openDocument (x : Expander) (number : Nat) : Act Nat := do
  let w := ((← get).documents.lookup number).getD []
  let text := bytesOfChars (Piece.text (← x.expand { quoted := true } w))
  let (input, output) ← makePipe
  if text.length ≤ documentSize then
    let _ ← task (Task.writeAll output text)
  else
    let _ ← fork fun _ => do
      let _ ← Task.call (.close input)
      let _ ← Task.writeAll output text
      return 0
  let _ ← call (.close output)
  return input

def moveAway (fd : Nat) : Act Former := do
  match ← call (.duplicate fd firstMoved) with
  | .ok moved =>
    let _ ← call (.close fd)
    return .moved moved
  | .error e =>
    if e = .badDescriptor then return .closed
    fail (decimal fd ++ ": " ++ e.wording)

/-- Remembers what a descriptor was, unless that is known already. -/
def remember (fd : Nat) (former : Former) : Act Unit :=
  modify fun s => match s.former with
    | [] => s
    | level :: rest => { s with former := ((fd, former) :: level) :: rest }

def isRemembered (fd : Nat) : Act Bool := do
  return ((← get).former.headD []).any (·.1 = fd)

/-- Gives a descriptor the object of another one, which is closed if it was opened for that. -/
def become (fd opened : Nat) (closes : Bool) : Act Unit := do
  let r ← call (.duplicateTo opened fd)
  if closes then let _ ← call (.close opened)
  match r with
  | .ok () => return
  | .error e => fail (decimal opened ++ ": " ++ e.wording)

def redirectOne (x : Expander) (remembers : Bool) (fd : Nat) (t : Target) : Act Unit := do
  let opened : Option Nat ← match t with
    | .file how path => pure (some (← openTarget how path))
    | .document number => pure (some (← openDocument x number))
    | .descriptor other => pure other
  let copies := match t with
    | .descriptor _ => true
    | _ => false
  if copies && opened = some fd then return
  if remembers then
    if !(← isRemembered fd) then
      remember fd (← if opened = some fd then pure .closed else moveAway fd)
  match opened with
  | none =>
    let _ ← call (.close fd)
  | some opened => if opened != fd then become fd opened (!copies)

def redirectAll (x : Expander) (remembers : Bool) : List (Nat × Target) → Act Unit
  | [] => pure ()
  | (fd, t) :: rest => do
    redirectOne x remembers fd t
    redirectAll x remembers rest

def beginRedirecting : Act Unit :=
  modify fun s => { s with former := [] :: s.former }

/-- Brings back the descriptors as they were, or keeps them as they are. -/
def endRedirecting (keeps : Bool) : Act Unit := do
  let s ← get
  set { s with former := s.former.drop 1 }
  for (fd, former) in (s.former.headD []).mergeSort (fun a b => a.1 ≤ b.1) do
    match former with
    | .closed => unless keeps do let _ ← call (.close fd)
    | .moved moved =>
      unless keeps do let _ ← call (.duplicateTo moved fd)
      let _ ← call (.close moved)

/-- Carries out redirections. Answers the status if they fail. -/
def redirectSafely (x : Expander) (ts : List (Nat × Target)) : Act (Option Nat) :=
  tryCatch (do
    redirectAll x true ts
    return none) fun e => do
      if e = .error then return some 2
      throw e

end Act

end Script

end ShellPipeline
