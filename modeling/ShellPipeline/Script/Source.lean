import ShellPipeline.Process.Call
import ShellPipeline.Script.Syntax

/-!
# Sources of scripts

A source is the text of a script as far as it has been read. If a command goes on after it, more
text has to be read first, and the command is looked at again from its beginning. A word that
begins a command can be an alias: its text is put in front of the rest, and while that text is read
the alias does not stand for it again.
-/

namespace ShellPipeline

namespace Script

/-- Why a command could not be read. -/
inductive Halt where
  /-- It may go on after the text that has been read. -/
  | incomplete
  | fault (line : Nat) (message : String)
deriving DecidableEq, Repr

/-- An alias whose text is being read. -/
structure OpenAlias where
  name : String
  /-- The number of characters that have been taken when its text ends. -/
  ending : Nat
  /-- Whether the word after it can be an alias too. -/
  goesOn : Bool

/-- The text of a script. -/
structure Source where
  /-- The characters that have been read and are not taken yet. -/
  rest : List Char
  ended : Bool := true
  line : Nat := 1
  /-- The number of characters that have been taken. -/
  taken : Nat := 0
  /-- The aliases whose texts are being read, the innermost first. -/
  aliases : List OpenAlias := []

/-- A document whose text is still to come. -/
structure Announced where
  number : Nat
  ending : List Char
  /-- Whether tabulators at the beginnings of its lines are dropped. -/
  stripsTabs : Bool
  expands : Bool

/-- How a redirection begins. -/
inductive RedirectionKind where
  | file (how : Opening)
  | descriptor
  | document (stripsTabs : Bool)

/-- A token. -/
inductive Token where
  | ending
  | newline
  | operator (text : String)
  | redirection (fd : Nat) (kind : RedirectionKind)
  | word (w : Word) (quoted : Bool)
  /-- A word with a meaning of its own. -/
  | keyword (text : String)

namespace Token

def wording : Token → String
  | ending => "end of file"
  | newline => "newline"
  | operator text => "\"" ++ text ++ "\""
  | redirection _ _ => "redirection"
  | word _ _ => "word"
  | keyword text => "\"" ++ text ++ "\""

def isOperator (t : Token) (text : String) : Bool :=
  match t with
  | operator s => s = text
  | _ => false

def isKeyword (t : Token) (text : String) : Bool :=
  match t with
  | keyword s => s = text
  | _ => false

def keywords : List String :=
  ["!", "case", "do", "done", "elif", "else", "esac", "fi", "for", "if", "in", "then", "until",
    "while", "\x7b", "\x7d"]

def endsList (t : Token) : Bool :=
  match t with
  | ending => true
  | operator s => [")", ";;"].contains s
  | keyword s => ["do", "done", "elif", "else", "esac", "fi", "then", "\x7d"].contains s
  | _ => false

end Token

/-- The reading of a command. -/
structure Reading where
  source : Source
  aliases : List (String × String) := []
  returned : Option Token := none
  /-- Whether the next word can be an alias since the text of another one has ended. -/
  afterAlias : Bool := false
  /-- The documents whose texts come after the line, the first of them first. -/
  announced : List Announced := []
  documents : Documents := []
  nextDocument : Nat := 0

abbrev Reader := StateT Reading (Except Halt)

namespace Reader

def fault {α : Type} (message : String) : Reader α := do
  throw (.fault (← get).source.line ("Syntax error: " ++ message))

def unexpected {α : Type} (t : Token) (wanted : Option String) : Reader α :=
  fault (t.wording ++ " unexpected"
    ++ wanted.elim "" fun w => " (expecting " ++ w ++ ")")

def closeAliases (r : Reading) : Reading :=
  match r.source.aliases with
  | [] => r
  | all =>
    let taken := r.source.taken
    let goesOn := all.any fun a => a.ending = taken && a.goesOn
    let aliases := (all.filter (taken ≤ ·.ending)).map fun a =>
      if a.ending = taken then { a with goesOn := false } else a
    { r with source := { r.source with aliases }, afterAlias := r.afterAlias || goesOn }

def peek : Reader (Option Char) := do
  modify closeAliases
  let r ← get
  match r.source.rest with
  | c :: _ => return some c
  | [] => if r.source.ended then return none else throw .incomplete

def skip : Reader Unit :=
  modify fun r =>
    { r with source := { r.source with rest := r.source.rest.drop 1, taken := r.source.taken + 1 } }

def countLine : Reader Unit :=
  modify fun r => { r with source := { r.source with line := r.source.line + 1 } }

/-- Drops lines that are continued by a backslash, at most so many. -/
def joinLinesFor : Nat → Reader (Option Char)
  | 0 => peek
  | n + 1 => do
    match ← peek with
    | some '\\' =>
      let r ← get
      match r.source.rest with
      | _ :: '\n' :: _ =>
        skip
        skip
        countLine
        joinLinesFor n
      | [_] => if r.source.ended then return some '\\' else throw .incomplete
      | _ => return some '\\'
    | c => return c

/-- The next character after lines that are continued by a backslash. -/
def peekJoined : Reader (Option Char) :=
  joinLinesFor roundLimit

/-- Takes the next character if it is a certain one. -/
def skipIf (c : Char) : Reader Bool := do
  if (← peekJoined) = some c then
    skip
    return true
  return false

/-- Puts the text of an alias in front of the rest. -/
def pushAlias (name text : String) : Reader Unit :=
  modify fun r =>
    let s := r.source
    let size := text.length
    let longer := s.aliases.map fun a => { a with ending := a.ending + size }
    let goesOn := text.endsWith " " || text.endsWith "\t"
    let aliases := { name, ending := s.taken + size, goesOn } :: longer
    { r with source := { s with rest := text.toList ++ s.rest, aliases } }

def within {α : Type} (text : List Char) (read : Reader α) : Reader α := do
  let before := (← get).source
  modify fun r => { r with source := { rest := text } }
  let a ← read
  modify fun r => { r with source := before, returned := none }
  return a

def withOwnDocuments {α : Type} (read : Reader α) : Reader α := do
  let before := (← get).announced
  modify fun r => { r with announced := [] }
  let a ← read
  modify fun r => { r with announced := before }
  return a

end Reader

end Script

end ShellPipeline
