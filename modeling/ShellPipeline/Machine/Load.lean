import ShellPipeline.Machine.Basic
import ShellPipeline.Text.Lines
import ShellPipeline.Text.Locale
import ShellPipeline.Tool.Table

/-!
# Programs in files

A file that can be executed is a tool or names its interpreter in its first line. Of that line only
so many bytes are looked at. An interpreter may be such a file again, up to a depth.
-/

namespace ShellPipeline

/-- The longest word that a program can be given, in bytes, with the NUL that ends it. -/
def maxWordSize : Nat := 131072

/-- The most bytes that the words of a program can take, each with its NUL and its address. -/
def maxWordsSize : Nat := 2097152

/-- Whether words and an environment can be given to a program. -/
def canPass (words : List String) (environment : List (String × String)) : Bool :=
  let sizes := words.map (·.length + 1) ++
    environment.map fun (name, value) => name.length + value.length + 2
  sizes.all (· ≤ maxWordSize) && sizes.foldl (fun n size => n + size + 8) 0 ≤ maxWordsSize

/-- The number of bytes of a file that tell how it is executed. -/
def headSize : Nat := 256

def isBlankByte (b : UInt8) : Bool :=
  b = 32 || b = 9

def endsName (b : UInt8) : Bool :=
  isBlankByte b || b = 0

/-- The line after the mark of a script, if it ends within the head of the file, or if at least the
name in it does. -/
def interpreterLine? (rest : Bytes) (whole : Bool) : Option Bytes :=
  let line := rest.takeWhile (· ≠ lineFeed)
  if line.length < rest.length then some line
  else
    let name := line.dropWhile isBlankByte
    if name.isEmpty || (!whole && !name.any endsName) then none else some line

/-- The interpreter that the head of a script names, with at most one word for it. -/
def namedInterpreter? (content : Bytes) : Option (List String) :=
  match content.take (headSize - 1) with
  | 35 :: 33 :: rest =>
    match interpreterLine? rest (content.length < headSize) with
    | none => none
    | some line =>
      let line := (line.reverse.dropWhile isBlankByte).reverse.dropWhile isBlankByte
      let name := line.takeWhile (!endsName ·)
      let argument := ((line.drop name.length).dropWhile isBlankByte).takeWhile (· ≠ 0)
      if name.isEmpty then none
      else some ([name, argument].filter (!·.isEmpty) |>.map wordOfBytes)
  | _ => none

/-- How many files one after the other can name an interpreter. -/
def interpreterDepth : Nat := 5

namespace Machine

/-- The object at a path, if it can be executed. -/
def executable (w : World) (dir : Nat) (path : String) : Except Errno Node := do
  let id ← w.tree.find dir (textOfWord path)
  match w.tree.node? id with
  | some (.tool name) => .ok (.tool name)
  | some (.file content mode) =>
    if !permits mode searchBit then .error .accessDenied
    else if w.isBeingWritten id then .error .textFileBusy
    else .ok (.file content mode)
  | _ => .error .accessDenied

/-- The program at a path with its words, through at most so many interpreters. -/
def load (w : World) (dir : Nat) (environment : List (String × String)) :
    Nat → String → List String → Except Errno Program
  | depth, path, words => do
    let node ← executable w dir path
    if !canPass words environment then .error .argumentsTooLong
    else
      match node with
      | .tool name =>
        match Tool.table.lookup name with
        | none => .ok (.exit 0)
        | some tool => .ok (tool words environment).program
      | .file content _ =>
        match namedInterpreter? content, depth with
        | none, _ => .error .execFormat
        | some interpreter, 0 => do
          let _ ← executable w dir (interpreter.headD "")
          .error .tooManyLinks
        | some interpreter, depth + 1 =>
          load w dir environment depth (interpreter.headD "")
            (interpreter ++ path :: words.drop 1)
      | _ => .error .accessDenied

end Machine

end ShellPipeline
