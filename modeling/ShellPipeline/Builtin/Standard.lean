import ShellPipeline.Builtin.Help
import ShellPipeline.Session.Basic

/-!
# The standard builtins

Leaving the shell, changing and showing its directory, showing the previous status and the
history, and help. No builtin takes back a request to exit.
-/

namespace ShellPipeline

variable {σ α η : Type} [Console σ]

/-- The status that a numeral stands for: an integer in decimal with an optional sign that fits
into 32 bits. -/
def readStatus? (s : String) : Option Status :=
  match readSigned? s.toList with
  | none => none
  | some i =>
    if Int32.minValue.toInt ≤ i ∧ i ≤ Int32.maxValue.toInt then some (Int32.ofInt i) else none

namespace Builtin

/-- Leaves the shell with the previous status or with a given one. -/
def exit : Handler (Session σ α η) := fun words last asked s =>
  match words with
  | [_] => (⟨last, true⟩, s)
  | [_, code] =>
    match readStatus? code with
    | some status => (⟨status, true⟩, s)
    | none => (⟨2, asked⟩, s.complain ("exit: " ++ code ++ ": numeric argument required"))
  | _ => (⟨1, asked⟩, s.complain "exit: too many arguments")

/-- The directory that the words of a change of directory ask for. -/
def destination (home : Option String) (words : List String) : Except String String :=
  match words[1]?.or home with
  | none => .error "HOME not set"
  | some path => if 2 < words.length then .error "too many arguments" else .ok path

def cd : Handler (Session σ α η) := fun words _ asked s =>
  match destination (Console.home s.shell.host) words with
  | .error message => (⟨1, asked⟩, s.complain ("cd: " ++ message))
  | .ok path =>
    match Console.enter path s.shell.host with
    | (.ok (), host) => (⟨0, asked⟩, s.mapHost fun _ => host)
    | (.error f, host) =>
      (⟨1, asked⟩, (s.mapHost fun _ => host).complain ("cd: " ++ path ++ ": " ++ f.message))

def pwd : Handler (Session σ α η) := fun _ _ asked s =>
  match Console.directory s.shell.host with
  | .ok path => (⟨0, asked⟩, s.print (path ++ "\n"))
  | .error e => (⟨1, asked⟩, s.complain ("pwd: " ++ e.fileMessage))

def status : Handler (Session σ α η) := fun _ last asked s =>
  (⟨last, asked⟩, s.print (decimalInt last.toInt ++ "\n"))

def history : Handler (Session σ α η) := fun _ _ asked s =>
  (⟨0, asked⟩, s.print s.history.render)

/-- Shows help on one name. Answers whether there is any. -/
def helpOn (s : Session σ α η) (name : String) : Bool × Session σ α η :=
  match HelpEntry.find? name with
  | some e => (true, s.print e.render)
  | none => (false, s.complain ("help: no help for " ++ name))

/-- Shows help on names. The status is zero as long as there is help on all of them. -/
def helpOnAll (status : Status) (s : Session σ α η) : List String → Status × Session σ α η
  | [] => (status, s)
  | name :: rest =>
    let (known, s) := helpOn s name
    helpOnAll (if known then status else 2) s rest

/-- Lists the builtins or shows help on the named ones. -/
def help : Handler (Session σ α η) := fun words _ asked s =>
  match words.drop 1 with
  | [] => (⟨0, asked⟩, s.print HelpEntry.listing)
  | names =>
    let (status, s) := helpOnAll 0 s names
    (⟨status, asked⟩, s)

/-- What a builtin that keeps a record answers. -/
inductive Answer where
  | fixed (status : Status)
  | previous
deriving DecidableEq, Repr

omit [Console σ] in
/-- A builtin that records its calls, gives an answer and may ask the shell to exit. -/
def recording (answer : Answer) (exits : Bool) : Handler (Session σ α η) :=
  fun words last asked s =>
    let status := match answer with
      | .fixed status => status
      | .previous => last
    (⟨status, asked || exits⟩, { s with calls := s.calls ++ [⟨words, last, asked⟩] })

end Builtin

def Registry.standard : Registry (Session σ α η) :=
  ⟨[("exit", Builtin.exit), ("cd", Builtin.cd), ("pwd", Builtin.pwd), ("status", Builtin.status),
    ("history", Builtin.history), ("help", Builtin.help)]⟩

end ShellPipeline
