import ShellPipeline.Number.Digits
import ShellPipeline.Script.Variables

/-!
# Arithmetic

Expressions are computed with whole numbers of 64 bits. A name stands for the number that is the
value of its variable. What cannot decide the value of an expression is read but not computed.
-/

namespace ShellPipeline

namespace Script

namespace Arithmetic

/-- A symbol of an expression. -/
inductive Symbol where
  | number (i : Int)
  | name (s : String)
  | operator (s : String)
  | unknown
deriving DecidableEq, Repr

def half : Int := 9223372036854775808

/-- The number of 64 bits that equals a number but for higher bits. -/
def wrap (i : Int) : Int :=
  (i + half) % (2 * half) - half

/-- The number of 64 bits that is nearest to a number. -/
def clamp (i : Int) : Int :=
  max (-half) (min (half - 1) i)

def readDigits (cs : List Char) : Nat × List Char :=
  let size := cs.length
  let (n, _, rest) := match cs with
    | '0' :: x :: d :: _ =>
      if (x = 'x' || x = 'X') && isHexDigit d then takeNumber 16 size (cs.drop 2)
      else if (x = 'b' || x = 'B') && isDigitOf 2 d then takeNumber 2 size (cs.drop 2)
      else takeNumber 8 size cs
    | '0' :: _ => takeNumber 8 size cs
    | _ => takeNumber 10 size cs
  (n, rest)

def readValue? (text : String) : Option Int :=
  let cs := text.toList.dropWhile isBlank
  let (negative, digits) := match cs with
    | '-' :: rest => (true, rest)
    | '+' :: rest => (false, rest)
    | rest => (false, rest)
  if digits.head?.any Char.isDigit then
    let (n, rest) := readDigits digits
    let i : Int := if negative then -(n : Int) else n
    if rest.all isBlank && clamp i = i then some i else none
  else if cs.isEmpty then some 0
  else none

def operators : List String :=
  ["<<=", ">>=", "<=", ">=", "<<", ">>", "==", "!=", "&&", "||", "*=", "/=", "%=", "+=", "-=",
    "&=", "^=", "|=", "=", "<", ">", "|", "&", "!", "(", ")", "*", "/", "%", "+", "-", "^", "~",
    "?", ":"]

/-- Takes an expression of at most so many characters apart. -/
def symbolsFor : Nat → List Char → List Symbol
  | 0, _ => []
  | _, [] => []
  | n + 1, c :: rest =>
    if c = ' ' || c = '\t' || c = '\n' then symbolsFor n rest
    else if c.isDigit then
      let (i, rest) := readDigits (c :: rest)
      .number (clamp i) :: symbolsFor n rest
    else if isNameStart c then
      let name := c :: rest.takeWhile isNameChar
      .name (String.ofList name) :: symbolsFor n (rest.drop (name.length - 1))
    else match operators.find? fun o => o.toList.isPrefixOf (c :: rest) with
      | some o => .operator o :: symbolsFor n (rest.drop (o.length - 1))
      | none => [.unknown]

/-- The operators between two numbers, those that bind least first. -/
def levels : List (List String) :=
  [["|"], ["^"], ["&"], ["==", "!="], ["<", "<=", ">", ">="], ["<<", ">>"], ["+", "-"],
    ["*", "/", "%"]]

def ofBool (b : Bool) : Int :=
  if b then 1 else 0

def bits (i : Int) : Nat :=
  (i % (2 * half)).toNat

/-- The value of two numbers under an operator, unless it would be a quotient by zero. -/
def result? (operator : String) (a b : Int) : Option Int :=
  match operator with
  | "*" => some (wrap (a * b))
  | "/" => if b = 0 then none else some (wrap (a.tdiv b))
  | "%" => if b = 0 then none else some (wrap (a.tmod b))
  | "+" => some (wrap (a + b))
  | "-" => some (wrap (a - b))
  | "<<" => some (wrap (bits a <<< (bits b % 64) : Nat))
  | ">>" => some (a >>> (bits b % 64))
  | "<" => some (ofBool (a < b))
  | "<=" => some (ofBool (a ≤ b))
  | ">" => some (ofBool (b < a))
  | ">=" => some (ofBool (b ≤ a))
  | "==" => some (ofBool (a = b))
  | "!=" => some (ofBool (a ≠ b))
  | "&" => some (wrap (bits a &&& bits b : Nat))
  | "^" => some (wrap (bits a ^^^ bits b : Nat))
  | _ => some (wrap (bits a ||| bits b : Nat))

abbrev Partial := Int × List Symbol

def fault {α : Type} (source message : String) : Act α :=
  Act.fail ("arithmetic expression: " ++ message ++ ": \"" ++ source ++ "\"")

def valueOf (name : String) : Act Int := do
  let value := ((← get).value? name).getD ""
  match readValue? value with
  | some i => return i
  | none => Act.fail ("Illegal number: " ++ value)

def apply (source operator : String) (a b : Int) : Act Int := do
  match result? operator a b with
  | some i => return i
  | none => fault source "division by zero"

abbrev Expression := Bool → List Symbol → Act Partial

/-- Computes an operand with the signs before it, of which there are at most so many. -/
def operand (source : String) (inner : Expression) : Nat → Expression
  | 0, _, _ => fault source "expecting primary"
  | n + 1, computes, symbols => do
    let signed (rest : List Symbol) (f : Int → Int) : Act Partial := do
      let (i, rest) ← operand source inner n computes rest
      return (f i, rest)
    match symbols with
    | .number i :: rest => return (i, rest)
    | .name s :: rest => return (← if computes then valueOf s else pure 0, rest)
    | .operator "(" :: rest =>
      match ← inner computes rest with
      | (i, .operator ")" :: rest) => return (i, rest)
      | _ => fault source "expecting ')'"
    | .operator "+" :: rest => signed rest id
    | .operator "-" :: rest => signed rest fun i => wrap (-i)
    | .operator "!" :: rest => signed rest fun i => ofBool (i = 0)
    | .operator "~" :: rest => signed rest fun i => -i - 1
    | _ => fault source "expecting primary"

/-- Computes what follows a value on a level, with at most so many operators. -/
def continued (source : String) (lower : Expression) (operators : List String)
    (computes : Bool) : Nat → Partial → Act Partial
  | 0, done => pure done
  | n + 1, (a, symbols) => do
    match symbols with
    | .operator o :: rest =>
      if operators.contains o then
        let (b, rest) ← lower computes rest
        let value ← if computes then apply source o a b else pure b
        continued source lower operators computes n (value, rest)
      else return (a, symbols)
    | _ => return (a, symbols)

def onLevels (source : String) (lowest : Expression) : List (List String) → Expression
  | [], computes, symbols => lowest computes symbols
  | operators :: more, computes, symbols => do
    let first ← onLevels source lowest more computes symbols
    continued source (onLevels source lowest more) operators computes symbols.length first

/-- Computes conjunctions, of which there are at most so many. -/
def conjunction (lower : Expression) : Nat → Expression
  | 0, computes, symbols => lower computes symbols
  | n + 1, computes, symbols => do
    match ← lower computes symbols with
    | (a, .operator "&&" :: rest) =>
      let (b, rest) ← conjunction lower n (computes && a != 0) rest
      return (ofBool (a != 0 && b != 0), rest)
    | done => return done

/-- Computes disjunctions, of which there are at most so many. -/
def disjunction (lower : Expression) : Nat → Expression
  | 0, computes, symbols => lower computes symbols
  | n + 1, computes, symbols => do
    match ← lower computes symbols with
    | (a, .operator "||" :: rest) =>
      let (b, rest) ← disjunction lower n (computes && a = 0) rest
      return (ofBool (a != 0 || b != 0), rest)
    | done => return done

/-- Computes choices between two values, of which there are at most so many. -/
def choice (source : String) (inner lower : Expression) : Nat → Expression
  | 0, computes, symbols => lower computes symbols
  | n + 1, computes, symbols => do
    match ← lower computes symbols with
    | (a, .operator "?" :: rest) =>
      match ← inner (computes && a != 0) rest with
      | (b, .operator ":" :: rest) =>
        let (c, rest) ← choice source inner lower n (computes && a = 0) rest
        return (if a != 0 then b else c, rest)
      | _ => fault source "expecting ':'"
    | done => return done

/-- The operator with which a variable gets a value, if one does. -/
def assigning? (operator : String) : Option String :=
  if operator = "=" then some ""
  else if ["==", "!=", "<=", ">="].contains operator then none
  else if operator.endsWith "=" then some (String.ofList (operator.toList.dropLast))
  else none

def expression (source : String) : Nat → Expression
  | 0, _, _ => fault source "expecting primary"
  | n + 1, computes, symbols => do
    let inner := expression source n
    let size := symbols.length + 1
    let plain : Act Partial :=
      choice source inner (disjunction (conjunction
        (onLevels source (operand source inner size) levels) size) size) size computes symbols
    match symbols with
    | .name s :: .operator o :: rest =>
      match assigning? o with
      | none => plain
      | some operator =>
        let (i, rest) ← inner computes rest
        if !computes then return (i, rest)
        let value ← if operator = "" then pure i else apply source operator (← valueOf s) i
        Act.setVariable s (decimalInt value) {}
        return (value, rest)
    | _ => plain

def evaluate (source : String) : Act Int := do
  let symbols := symbolsFor (source.length + 1) source.toList
  let (i, rest) ← expression source (symbols.length + 1) true symbols
  if rest.isEmpty then return i
  fault source "expecting EOF"

end Arithmetic

end Script

end ShellPipeline
