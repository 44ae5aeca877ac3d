import ShellPipeline.Text.Locale

/-!
# Commands and words of scripts

A script is a sequence of commands. Their words keep which of their characters are quoted, since
those stand for themselves, and hold the parts that are replaced when a command is run: parameters,
the output of commands and the values of arithmetic.
-/

namespace ShellPipeline

namespace Script

/-- What is made of the value of a parameter. -/
inductive Form where
  | value
  | length
  | orWord
  /-- The value, or else a word that becomes the value. -/
  | orAssign
  | orComplain
  /-- A word if there is a value, or else nothing. -/
  | ifValue
  /-- The value without the shortest beginning, or the longest, that a pattern matches. -/
  | trimStart (longest : Bool)
  /-- The value without the shortest end, or the longest, that a pattern matches. -/
  | trimEnd (longest : Bool)
  | unknown
deriving DecidableEq, Repr

/-- How a file is opened for a redirection. -/
inductive Opening where
  | read
  | write
  /-- For writing, whether or not files are protected. -/
  | overwrite
  | append
  | both
deriving DecidableEq, Repr

mutual

/-- A part of a word. -/
inductive Part where
  | char (c : Char) (quoted : Bool)
  | mark
  /-- A parameter with the form in which it is used, whether an empty value counts as none, and the
  word of the form. -/
  | parameter (name : String) (form : Form) (empty : Bool) (word : List Part)
  | output (command : Option Command)
  | arithmetic (expression : List Part)

/-- A redirection of a descriptor. -/
inductive Redirection where
  | file (fd : Nat) (how : Opening) (path : List Part)
  | descriptor (fd : Nat) (other : Option Nat)
  | named (fd : Nat) (word : List Part)
  | document (fd : Nat) (number : Nat)

/-- A command. -/
inductive Command where
  | simple (line : Nat) (assignments words : List (List Part)) (redirections : List Redirection)
  /-- Commands of which each one reads what the one before writes. -/
  | pipeline (commands : List Command) (background : Bool)
  | redirected (line : Nat) (command : Command) (redirections : List Redirection)
  /-- A command in a process of its own. -/
  | subshell (line : Nat) (command : Command) (redirections : List Redirection)
  /-- A command in a process that is not waited for. -/
  | background (line : Nat) (command : Command) (redirections : List Redirection)
  /-- The second command if the first succeeds. -/
  | both (first second : Command)
  /-- The second command if the first fails. -/
  | either (first second : Command)
  | sequence (first second : Command)
  | choose (test yes : Command) (no : Option Command)
  /-- A command again and again as long as a test succeeds, or as long as it fails. -/
  | loop (untilSuccess : Bool) (test body : Command)
  /-- A command for every value of a variable. -/
  | each (line : Nat) (name : String) (words : List (List Part)) (body : Command)
  /-- The command of the first pattern that matches a word. -/
  | cases (line : Nat) (word : List Part) (cases : List (List (List Part) × Option Command))
  | define (name : String) (line : Nat) (body : Command)
  /-- A command of which the opposite counts. -/
  | opposite (command : Command)

end

instance : Inhabited Command := ⟨.simple 0 [] [] []⟩

abbrev Word := List Part

abbrev Case := List Word × Option Command

abbrev Documents := List (Nat × Word)

def isNameStart (c : Char) : Bool :=
  c.isAlpha || c = '_'

def isNameChar (c : Char) : Bool :=
  isNameStart c || c.isDigit

def isName (cs : List Char) : Bool :=
  cs.head?.any isNameStart && cs.all isNameChar

def specialParameters : List Char :=
  ['#', '?', '$', '!', '-', '*', '@']

namespace Word

def text? (w : Word) : Option (List Char) :=
  w.mapM fun p => match p with
    | .char c _ => some c
    | _ => none

/-- The text of a word that holds only characters and quotes. -/
def unquoted (w : Word) : List Char :=
  w.filterMap fun p => match p with
    | .char c _ => some c
    | _ => none

/-- Takes a word apart at the equals sign after a name. -/
def assignment? : Word → Option (List Char × Word)
  | [] => none
  | .char c false :: rest =>
    if c = '=' then some ([], rest)
    else if isNameChar c then (assignment? rest).map fun (name, value) => (c :: name, value)
    else none
  | _ => none

def isAssignment (w : Word) : Bool :=
  w.assignment?.any fun (name, _) => isName name

end Word

/-- The text of a document whose lines are taken as they are. -/
def Word.ofText (cs : List Char) : Word :=
  cs.map (.char · true)

end Script

end ShellPipeline
