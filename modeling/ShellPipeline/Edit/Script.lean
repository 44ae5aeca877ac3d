import ShellPipeline.Text.Regex.Search

/-!
# Editing scripts

A script is a list of commands that are applied to every line of some files. Each command has up to
two addresses, which say to what lines it is applied. Commands change the line, which is kept in the
pattern space, and a second text, which is kept in the hold space; they put out lines and texts, and
they choose the command that comes next.
-/

namespace ShellPipeline

/-- The lines that a command is applied to, or that begin or end a range of them. -/
inductive Address where
  | line (number : Nat)
  /-- Every so many lines from one on. -/
  | step (first step : Nat)
  | last
  /-- The lines with a match. What was searched for the last time is searched for again unless
  something is given. -/
  | holding (s : Option Searcher)
  /-- So many lines after the one where a range begins. -/
  | after (count : Nat)
  /-- The next line whose number is a multiple. -/
  | multiple (factor : Nat)

/-- What is done to the letters of a text. -/
inductive CaseChange where
  | none
  | upper
  | lower
deriving DecidableEq, Repr

/-- A text, and after it what a group took, with changed letters. -/
structure ReplacementPart where
  text : List Char
  /-- The group, or zero for the whole match. -/
  group : Option Nat := none
  all : CaseChange := .none
  /-- What is done to the first character. -/
  first : CaseChange := .none
deriving DecidableEq, Repr

/-- Where lines are put out. -/
inductive EditOutput where
  | output
  | error
  | file (number : Nat)
deriving DecidableEq, Repr

/-- What is done about a match. -/
structure Substitution where
  /-- What is searched for. What was searched for the last time is searched for again if nothing is
  given. -/
  searcher : Option Searcher
  parts : List ReplacementPart
  /-- The largest number of a group in it. -/
  largest : Nat := 0
  /-- The number of the first match that is replaced. -/
  first : Nat := 1
  /-- Whether the later matches are replaced too. -/
  all : Bool := false
  /-- Whether the line is put out, before and after it is run as a command. -/
  prints : Bool × Bool := (false, false)
  /-- Whether the line is run as a command and replaced with its output. -/
  runs : Bool := false
  /-- Where else the line is put out. -/
  copy : Option EditOutput := none

/-- What a command does. -/
inductive EditAction where
  /-- Goes on at another command if the addresses do not fit. -/
  | block (stop : Nat)
  | nothing
  /-- Puts out the number of the line. -/
  | number
  /-- Puts out a text at the end of the cycle. -/
  | append (text : List Char)
  | insert (text : List Char)
  /-- Puts out a text for the line or for the whole range. -/
  | change (text : List Char)
  /-- Goes on at another command, if a substitution was made or was not, or in any case. -/
  | jump (condition : Option Bool) (target : Nat)
  | drop
  | dropFirst
  /-- Runs a command and puts out what it writes, or runs the line. -/
  | run (command : Option (List Char))
  /-- Puts out the name of the file. -/
  | fileName
  | take
  /-- Takes the held text as a further line. -/
  | takeMore
  | hold
  /-- Holds the line as a further one. -/
  | holdMore
  /-- Holds the line and takes what was held. -/
  | exchange
  /-- Puts out the line in a form without characters that cannot be seen. -/
  | list (width : Option Nat)
  | next
  /-- Takes the next line as a further one. -/
  | nextMore
  | print
  /-- Puts out the first line of several. -/
  | printFirst
  /-- Ends with a code, perhaps after putting out the line. -/
  | quit (prints : Bool) (code : Nat)
  /-- Puts out a file at the end of the cycle. -/
  | read (path : String)
  | readNow (path : String)
  /-- Puts out the next line of a file at the end of the cycle. -/
  | readLine (file : Nat)
  | substitute (s : Substitution)
  /-- Puts out the line somewhere else, or only the first of several. -/
  | write (firstOnly : Bool) (target : EditOutput)
  | replaceChars (table : List (Char × Char))
  | clear

/-- A command with its addresses. -/
structure EditCommand where
  /-- The lines to which it is applied, or the first of them. -/
  first : Option Address := none
  last : Option Address := none
  /-- Whether it is applied to all other lines. -/
  negated : Bool := false
  action : EditAction := .nothing

/-- A script. -/
structure EditScript where
  commands : Array EditCommand
  /-- Whether lines are put out only by commands. -/
  silent : Bool := false
  ending : Char := '\n'
  /-- The width of lines that are put out in a visible form. -/
  width : Nat := 70
  /-- Whether the lines of every file are counted apart. -/
  separate : Bool := false
  /-- Whether only what is common to all editors is done. -/
  basicOnly : Bool := false
  /-- Whether what is put out for a file takes its place. -/
  inPlace : Bool := false
  /-- Whether what is put out is written at once. -/
  unbuffered : Bool := false
  /-- The files that are read line by line. -/
  inputs : List String := []

end ShellPipeline
