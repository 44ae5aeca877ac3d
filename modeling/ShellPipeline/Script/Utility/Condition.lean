import ShellPipeline.Script.Utility

/-!
# Conditions

`test` tells whether a condition holds: what files are, how texts and numbers compare, and what
follows from that. How its words are read depends on how many there are.
-/

namespace ShellPipeline

namespace Script

namespace Condition

/-- What a word of a condition can be. -/
inductive Operator where
  | unary
  | binary
  | negation
  | conjunction
  | disjunction
  | opening
  | closing
deriving DecidableEq, Repr

def unaryOperators : List String :=
  ["-r", "-w", "-x", "-e", "-f", "-d", "-c", "-b", "-p", "-u", "-g", "-k", "-s", "-t", "-z",
    "-n", "-h", "-O", "-G", "-L", "-S"]

def binaryOperators : List String :=
  ["=", "!=", "<", ">", "-eq", "-ne", "-ge", "-gt", "-le", "-lt", "-nt", "-ot", "-ef"]

def operator? (word : String) : Option Operator :=
  if unaryOperators.contains word then some .unary
  else if binaryOperators.contains word then some .binary
  else match word with
    | "!" => some .negation
    | "-a" => some .conjunction
    | "-o" => some .disjunction
    | "(" => some .opening
    | ")" => some .closing
    | _ => none

def isOperand : List String → Bool
  | [] => true
  | [_] => false
  | next :: _ => operator? next = some .binary

/-- What the first of some words is where it stands. -/
def readOperator (words : List String) : Option Operator :=
  match words with
  | [] => none
  | word :: rest =>
    match operator? word with
    | some .unary => if isOperand rest then none else some .unary
    | some .opening => if rest.isEmpty then none else some .opening
    | o => o

def fileHolds (letter : String) (info : FileInfo) : Bool :=
  let owner := info.mode &&& 0o200 != 0 || info.kind != .device
  match letter with
  | "-f" => info.kind = .regular
  | "-d" => info.kind = .directory
  | "-c" => info.kind = .device || info.kind = .terminal
  | "-p" => info.kind = .pipe
  | "-h" | "-L" => info.kind = .link
  | "-u" => info.mode &&& 0o4000 != 0
  | "-g" => info.mode &&& 0o2000 != 0
  | "-k" => info.mode &&& 0o1000 != 0
  | "-s" => info.size != 0
  | "-r" => info.mode &&& 0o400 != 0
  | "-w" => info.mode &&& 0o200 != 0
  | "-x" => info.mode &&& 0o100 != 0
  | "-e" => true
  | "-O" | "-G" => owner
  | _ => false

def unary (letter word : String) : Act Bool := do
  match letter with
  | "-z" => return word.isEmpty
  | "-n" => return !word.isEmpty
  | "-t" =>
    let fd ← Act.integer word
    match ← Act.call (.describeOpen fd.toNat) with
    | .ok info => return info.kind = .terminal && 0 ≤ fd
    | .error _ => return false
  | letter =>
    match ← Act.call (.describe word (letter != "-h" && letter != "-L")) with
    | .ok info => return fileHolds letter info
    | .error _ => return false

def isSameFile (a b : String) : Act Bool := do
  match ← Act.call (.describe a true), ← Act.call (.describe b true) with
  | .ok x, .ok y => return x.number = y.number
  | _, _ => return false

def binary (operator a b : String) : Act Bool := do
  let compare (holds : Int → Int → Bool) : Act Bool := do
    let x ← Act.integer a
    return holds x (← Act.integer b)
  match operator with
  | "=" => return a = b
  | "!=" => return a != b
  | "<" => return a < b
  | ">" => return b < a
  | "-eq" => compare (· = ·)
  | "-ne" => compare (· != ·)
  | "-ge" => compare (· ≥ ·)
  | "-gt" => compare (· > ·)
  | "-le" => compare (· ≤ ·)
  | "-lt" => compare (· < ·)
  | "-ef" => isSameFile a b
  | _ => return false

def fault {α : Type} (word message : String) : Act α :=
  Act.fail (if word = "" then message else word ++ ": " ++ message)

/-- A condition, and the words from its last one on. -/
abbrev Reading := List String → Act (Bool × List String)

def primary (inner : Reading) (words : List String) : Act (Bool × List String) := do
  match words, readOperator words with
  | [], _ => return (false, [])
  | _ :: rest, some .opening =>
    if readOperator rest = some .closing then return (false, rest)
    let (holds, last) ← inner rest
    let after := last.drop 1
    if readOperator after = some .closing then return (holds, after)
    fault "" "closing paren expected"
  | letter :: rest, some .unary =>
    match rest with
    | [] => fault letter "argument expected"
    | word :: _ => return (← unary letter word, rest)
  | word :: rest, _ =>
    match rest with
    | operator :: after =>
      if readOperator rest = some .binary then
        match after with
        | [] => fault operator "argument expected"
        | other :: _ => return (← binary operator word other, after)
      else return (!word.isEmpty, words)
    | [] => return (!word.isEmpty, words)

/-- A condition or its opposite, of which there are at most so many. -/
def negation (inner : Reading) : Nat → Reading
  | 0, words => primary inner words
  | n + 1, words => do
    if readOperator words != some .negation then return ← primary inner words
    let rest := words.drop 1
    if rest.isEmpty then return (true, words)
    let (holds, last) ← negation inner n rest
    return (!holds, last)

/-- Conditions that all hold, of which there are at most so many. -/
def conjunction (inner : Reading) : Nat → Reading
  | 0, words => negation inner words.length words
  | n + 1, words => do
    let (a, last) ← negation inner words.length words
    if readOperator (last.drop 1) != some .conjunction then return (a, last)
    let (b, last) ← conjunction inner n (last.drop 2)
    return (a && b, last)

/-- Conditions of which one holds, of which there are at most so many. -/
def disjunction (inner : Reading) : Nat → Reading
  | 0, words => conjunction inner words.length words
  | n + 1, words => do
    let (a, last) ← conjunction inner words.length words
    if readOperator (last.drop 1) != some .disjunction then return (a, last)
    let (b, last) ← disjunction inner n (last.drop 2)
    return (a || b, last)

/-- A condition with at most so many levels of parentheses. -/
def expression : Nat → Reading
  | 0, words => pure (false, words)
  | n + 1, words => disjunction (expression n) words.length words

/-- Whether the words of a condition hold as they stand. -/
def whole (words : List String) : Act Bool := do
  let (holds, last) ← expression (words.length + 1) words
  match last with
  | word :: _ :: _ => fault word "unexpected operator"
  | _ => return holds

def between (words : List String) : Act Bool := do
  match words with
  | [a, operator, b] => binary operator a b
  | words => whole words

/-- Whether the words of a condition hold. Their number decides how they are read. -/
def evaluate : Nat → List String → Act Bool
  | 0, words => whole words
  | n + 1, words => do
    if words.isEmpty then return false
    let size := words.length
    if size = 3 && (words[1]?.bind operator?) = some .binary then between words
    else if size = 3 || size = 4 then
      if words.head? = some "(" && words.getLast? = some ")" then
        whole (words.drop 1).dropLast
      else if words.head? = some "!" then return !(← evaluate n (words.drop 1))
      else whole words
    else whole words

end Condition

namespace Utility

def testWords (words : List String) : Act Nat := do
  return if ← Condition.evaluate words.length words then 0 else 1

def test : Utility :=
  .ofWords testWords

def bracket : Utility :=
  .ofWords fun words => do
    unless (words.getLast?.getD "").startsWith "]" do Act.fail "missing ]"
    testWords words.dropLast

end Utility

end Script

end ShellPipeline
