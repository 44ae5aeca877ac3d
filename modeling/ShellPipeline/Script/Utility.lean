import ShellPipeline.Script.Input
import ShellPipeline.Script.Variables

/-!
# Utilities

An interpreter runs some commands itself. A special one keeps the assignments before it, and what
is wrong with it stops the whole script.
-/

namespace ShellPipeline

namespace Script

/-- A command that an interpreter runs itself. -/
structure Utility where
  isSpecial : Bool := false
  /-- Whether its words are read as assignments if they look like some. -/
  assigns : Bool := false
  /-- Runs it with its words after its name. Answers the status. -/
  run : Runner → RunMode → List String → Act Nat

def Utility.ofWords (run : List String → Act Nat) : Utility where
  run := fun _ _ words => run words

namespace Act

/-- Whether a letter is an option, and whether it has a value. -/
def optionKind (letters : List Char) (c : Char) : Option Bool :=
  match letters with
  | [] => none
  | [d] => if c = d then some false else none
  | d :: ':' :: rest => if c = d then some true else optionKind rest c
  | d :: rest => if c = d then some false else optionKind rest c

/-- Reads the letters of a word. Answers the options, and the words after it that are left. -/
def readLetters (letters : List Char) (next : List String) :
    List Char → Act (List (Char × String) × List String)
  | [] => pure ([], next)
  | c :: rest => do
    match optionKind letters c with
    | none => fail ("Illegal option -" ++ c.toString)
    | some false =>
      let (options, next) ← readLetters letters next rest
      return ((c, "") :: options, next)
    | some true =>
      if !rest.isEmpty then return ([(c, String.ofList rest)], next)
      match next with
      | [] => fail ("No arg for -" ++ c.toString ++ " option")
      | value :: next => return ([(c, value)], next)

/-- Reads the options of a utility, of which there are at most so many words. -/
def optionsFor (letters : List Char) :
    Nat → List String → Act (List (Char × String) × List String)
  | 0, words => pure ([], words)
  | _, [] => pure ([], [])
  | n + 1, word :: rest => do
    match word.toList with
    | ['-', '-'] => return ([], rest)
    | '-' :: c :: cs =>
      let (options, next) ← readLetters letters rest (c :: cs)
      let (more, operands) ← optionsFor letters n next
      return (options ++ more, operands)
    | _ => return ([], word :: rest)

/-- Reads the options of a utility. Answers also the words that are left. -/
def options (letters : String) (words : List String) :
    Act (List (Char × String) × List String) :=
  optionsFor letters.toList (words.length + 1) words

/-- Passes over the mark that ends options. No options are known. -/
def noOptions (words : List String) : Act (List String) := do
  return (← options "" words).2

end Act

end Script

end ShellPipeline
