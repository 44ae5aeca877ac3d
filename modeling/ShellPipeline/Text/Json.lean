/-!
# JSON text

A small JSON value and its written form: two spaces of indentation for each level, one element or
member on a line, and strings with the short escapes where they exist.
-/

namespace ShellPipeline

/-- A JSON value made of nulls, strings, arrays and objects. -/
inductive Json where
  | null
  | text (s : String)
  | list (items : List Json)
  /-- An object, with its members in the order in which they are written. -/
  | object (members : List (String × Json))

namespace Json

def hexPair (n : Nat) : List Char :=
  [Nat.digitChar (n / 16), Nat.digitChar (n % 16)]

def escapeChar (c : Char) : List Char :=
  if c = '"' || c = '\\' then ['\\', c]
  else if c = '\n' then ['\\', 'n']
  else if c = '\r' then ['\\', 'r']
  else if c = '\t' then ['\\', 't']
  else if c = '\x08' then ['\\', 'b']
  else if c = '\x0c' then ['\\', 'f']
  else if c.toNat < 0x20 then ['\\', 'u', '0', '0'] ++ hexPair c.toNat
  else [c]

def escape (s : String) : List Char :=
  '"' :: s.toList.flatMap escapeChar ++ ['"']

def newLine (depth : Nat) : List Char :=
  '\n' :: List.replicate (2 * depth) ' '

mutual

/-- The written form of a value that stands at a level. -/
def layout (depth : Nat) : Json → List Char
  | .null => ['n', 'u', 'l', 'l']
  | .text s => escape s
  | .list [] => ['[', ']']
  | .list (j :: js) =>
    '[' :: newLine (depth + 1) ++ layout (depth + 1) j ++ layoutItems (depth + 1) js
      ++ newLine depth ++ [']']
  | .object [] => ['\x7b', '\x7d']
  | .object (m :: ms) =>
    '\x7b' :: newLine (depth + 1) ++ layoutMember (depth + 1) m ++ layoutMembers (depth + 1) ms
      ++ newLine depth ++ ['\x7d']
termination_by structural j => j

def layoutItems (depth : Nat) : List Json → List Char
  | [] => []
  | j :: js => ',' :: newLine depth ++ layout depth j ++ layoutItems depth js
termination_by structural js => js

def layoutMembers (depth : Nat) : List (String × Json) → List Char
  | [] => []
  | m :: ms => ',' :: newLine depth ++ layoutMember depth m ++ layoutMembers depth ms
termination_by structural ms => ms

/-- The written form of a member: its name, a colon, a space and its value. -/
def layoutMember (depth : Nat) : String × Json → List Char
  | (name, j) => escape name ++ [':', ' '] ++ layout depth j
termination_by structural m => m

end

def pretty (j : Json) : String :=
  String.ofList (layout 0 j)

end Json

end ShellPipeline
