import ShellPipeline.Script.Arithmetic
import ShellPipeline.Script.Field

/-!
# What words stand for

A word stands for its characters, with the values of parameters and expressions and the output of
commands in the places of those. A tilde at its beginning stands for a home directory.
-/

namespace ShellPipeline

namespace Script

/-- How a word is read. -/
structure Expansion where
  cuts : Bool := false
  /-- Whether a tilde at its beginning means something. -/
  tilde : Bool := false
  /-- Whether a tilde after a colon means something. -/
  colonTilde : Bool := false
  quoted : Bool := false
  /-- Whether its own characters can be separators. -/
  divides : Bool := false

/-- The reader of the words within others, and the taker of the output of commands. -/
structure Expander where
  expand : Expansion → Word → Act (List Piece)
  output : Option Command → Act Bytes

def homes : List (String × String) :=
  [("root", "/root"), ("daemon", "/usr/sbin"), ("bin", "/bin"), ("sys", "/dev"),
    ("sync", "/bin"), ("games", "/usr/games"), ("man", "/var/cache/man"),
    ("lp", "/var/spool/lpd"), ("mail", "/var/mail"), ("news", "/var/spool/news"),
    ("uucp", "/var/spool/uucp"), ("proxy", "/bin"), ("www-data", "/var/www"),
    ("backup", "/var/backups"), ("list", "/var/list"), ("irc", "/run/ircd"),
    ("nobody", "/nonexistent"), ("ubuntu", "/home/ubuntu")]

/-- The letters of the options in the order in which they are shown. -/
def optionLetters : List Char :=
  ['p', 'u', 'b', 'a', 'C', 'E', 'V', 'v', 'x', 's', 'n', 'm', 'i', 'I', 'f', 'e']

/-- The value of a parameter. -/
inductive Content where
  | absent
  | text (s : String)
  | texts (ss : List String)
deriving DecidableEq, Repr

namespace State

/-- The argument with a number, of which the first is the name of the script. -/
def argument? (s : State) (n : Nat) : Option String :=
  if n = 0 then some s.name else s.arguments[n - 1]?

def content (s : State) (name : String) : Content :=
  let text (v : Option String) : Content := v.elim .absent .text
  match name with
  | "$" => .text (decimal s.number)
  | "?" => .text (decimal s.status)
  | "#" => .text (decimal s.arguments.length)
  | "!" => text (s.lastBackground.map decimal)
  | "-" => .text (String.ofList (optionLetters.filter s.has))
  | "@" | "*" => .texts s.arguments
  | name =>
    match readDecimal? name.toList with
    | some n => text (s.argument? n)
    | none => text (s.value? name)

end State

/-- The name of a user after a tilde, and the rest of the word. -/
def tildeName? (stopsAtColon : Bool) : Word → Option (List Char × Word)
  | [] => some ([], [])
  | .char c false :: rest =>
    if c = '/' || (stopsAtColon && c = ':') then some ([], .char c false :: rest)
    else (tildeName? stopsAtColon rest).map fun (name, after) => (c :: name, after)
  | _ => none

namespace Act

/-- The pieces of a home directory at the beginning of a word, and the rest of it. -/
def expandTilde (e : Expansion) (w : Word) : Act (List Piece × Word) := do
  match w with
  | .char '~' false :: rest =>
    match tildeName? e.colonTilde rest with
    | none => return ([], w)
    | some (name, after) =>
      let s ← get
      let home := if name.isEmpty then s.value? "HOME"
        else homes.lookup (String.ofList name)
      match home with
      | none => return ([], w)
      | some home => return (Piece.ofChars home.toList true, after)
  | w => return ([], w)

/-- The pieces of several arguments. A gap is between them where a word is cut, and otherwise the
first of the separators. -/
def argumentPieces (s : State) (e : Expansion) (star : Bool) (ss : List String) : List Piece :=
  let hasGaps := e.cuts && (if e.quoted then !star else (s.value? "IFS").isSome)
  let between : List Piece :=
    if hasGaps then [.gap]
    else s.separators.head?.elim [] fun c => [.char c e.quoted]
  (ss.map fun t => Piece.ofChars t.toList e.quoted).intersperse between |>.flatten

/-- The pieces of the value of a parameter, if there is one. -/
def contentPieces? (s : State) (e : Expansion) (name : String) : Option (List Piece) :=
  match s.content name with
  | .absent => none
  | .text t => some (Piece.ofChars t.toList e.quoted)
  | .texts ss => some (argumentPieces s e (name = "*") ss)

/-- The pieces of a value, which can be cut unless it is quoted. -/
def recorded (s : State) (e : Expansion) (name : String) (ps : List Piece) : List Piece :=
  if e.quoted then
    if name = "@" && !s.arguments.isEmpty then Piece.divisible true ps else ps
  else Piece.divisible false ps

def complainUnset {α : Type} (name message : String) : Act α :=
  fail (name ++ ": " ++ message)

/-- The ways to cut pieces in two up to the first gap, or everywhere. The shortest beginning comes
first. -/
def halves (everywhere : Bool) (ps : List Piece) : List (List Piece × List Piece) :=
  let size := if everywhere then ps.length else (Piece.untilGap ps).length
  (List.range (size + 1)).map fun n => (ps.take n, ps.drop n)

/-- What is left of pieces when the beginning that a pattern matches is taken away. The pattern is
held against what comes before the first gap. -/
def trimStart (p : Pattern) (longest : Bool) (ps : List Piece) : List Piece :=
  let parts := if longest then (halves true ps).reverse else halves false ps
  ((parts.find? fun x => p.isMatch (Piece.untilGap x.1)).map Prod.snd).getD ps

/-- What is left of pieces when the end that a pattern matches is taken away. The pattern is held
against what comes before the next gap. -/
def trimEnd (p : Pattern) (longest : Bool) (ps : List Piece) : List Piece :=
  let parts := if longest then halves false ps else (halves true ps).reverse
  ((parts.find? fun x => p.isMatch (Piece.untilGap x.2)).map Prod.fst).getD ps

def parameterPieces (x : Expander) (e : Expansion) (name : String) (form : Form) (empty : Bool)
    (word : Word) : Act (List Piece) := do
  let s ← get
  let isShown := form != .length && form != .ifValue
  let content := contentPieces? s { e with cuts := e.cuts && isShown } name
  let ps := content.getD []
  let counts := content.isSome && !(empty && ps.isEmpty)
  let insist : Act Unit :=
    if content.isNone && s.has 'u' then complainUnset name "parameter not set" else pure ()
  let wordPieces : Act (List Piece) :=
    x.expand { e with tilde := true, colonTilde := false, divides := true } word
  match form with
  | .unknown => fail "Bad substitution"
  | .value =>
    insist
    return recorded s e name ps
  | .orWord => if counts then return recorded s e name ps else wordPieces
  | .ifValue => if counts then wordPieces else return []
  | .orComplain =>
    if counts then return recorded s e name ps
    let message := String.ofList (Piece.text (← x.expand { tilde := true } word))
    if word.isEmpty then
      complainUnset name ("parameter not set" ++ if empty then " or null" else "")
    else complainUnset name message
  | .orAssign =>
    if counts then return recorded s e name ps
    let text := String.ofList (Piece.text (← x.expand { tilde := true } word))
    assign name text
    let s ← get
    return recorded s e name ((contentPieces? s e name).getD [])
  | .length =>
    insist
    let digits := decimalDigits ps.length
    return if e.quoted then Piece.ofChars digits true
      else Piece.divisible false (Piece.ofChars digits false)
  | .trimStart longest =>
    insist
    let p := Piece.toPattern (← x.expand { tilde := true } word)
    return recorded s e name (trimStart p longest ps)
  | .trimEnd longest =>
    insist
    let p := Piece.toPattern (← x.expand { tilde := true } word)
    return recorded s e name (trimEnd p longest ps)

/-- The pieces of the output of a command, without the line feeds that end it. -/
def outputPieces (x : Expander) (e : Expansion) (c : Option Command) : Act (List Piece) := do
  let bytes ← x.output c
  let kept := (bytes.reverse.dropWhile (· = 10)).reverse.filter (· != 0)
  let ps := Piece.ofChars (charsOfBytes kept) e.quoted
  return if e.quoted then ps else Piece.divisible false ps

def arithmeticPieces (x : Expander) (e : Expansion) (word : Word) : Act (List Piece) := do
  let source := String.ofList (Piece.text (← x.expand {} word))
  let digits := (decimalInt (← Arithmetic.evaluate source)).toList
  return if e.quoted then Piece.ofChars digits true
    else Piece.divisible false (Piece.ofChars digits false)

def partPieces (x : Expander) (e : Expansion) (p : Part) : Act (List Piece) :=
  match p with
  | .char c quoted =>
    let ps := [Piece.char c (quoted || e.quoted)]
    return if e.divides && !quoted && !e.quoted then Piece.divisible false ps else ps
  | .mark => return [.mark]
  | .parameter name form empty word => parameterPieces x e name form empty word
  | .output c => outputPieces x e c
  | .arithmetic word => arithmeticPieces x e word

/-- The characters of a word that can be cut together, and the rest. -/
def takePlain (stopsAtColon : Bool) : Word → List Char × Word
  | .char c false :: rest =>
    if stopsAtColon && c = ':' then ([c], rest)
    else
      let (cs, after) := takePlain stopsAtColon rest
      (c :: cs, after)
  | w => ([], w)

/-- Whether a word begins with all arguments between quotes, and what comes after them. -/
def quotedArguments? : Word → Option Word
  | .mark :: .parameter "@" .value _ _ :: .mark :: rest => some rest
  | _ => none

/-- The pieces of a word of at most so many parts after others, which are in reverse. -/
def wordPiecesFor (x : Expander) (e : Expansion) :
    Nat → Bool → Bool → List (List Piece) → Word → Act (List Piece)
  | 0, _, _, done, _ => pure done.reverse.flatten
  | _, _, _, done, [] => pure done.reverse.flatten
  | n + 1, inQuotes, tilde, done, p :: rest => do
    let w := p :: rest
    let inside := { e with quoted := e.quoted || inQuotes }
    if tilde then
      let (home, after) ← expandTilde e w
      return ← wordPiecesFor x e n inQuotes false (home :: done) after
    match if inQuotes then none else quotedArguments? w with
    | some rest =>
      let ps ← parameterPieces x { e with quoted := true } "@" .value false []
      wordPiecesFor x e n inQuotes false (ps :: done) rest
    | none =>
      match p with
      | .mark => wordPiecesFor x e n (!inQuotes) false ([.mark] :: done) rest
      | .char _ false =>
        let (cs, after) := takePlain e.colonTilde w
        let ps := Piece.ofChars cs inside.quoted
        let ps := if e.divides && !inside.quoted then Piece.divisible false ps else ps
        let tilde := e.colonTilde && !inQuotes && cs.getLast? = some ':'
        wordPiecesFor x e n inQuotes tilde (ps :: done) after
      | p =>
        let ps ← partPieces x inside p
        wordPiecesFor x e n inQuotes false (ps :: done) rest

def wordPieces (x : Expander) (e : Expansion) (w : Word) : Act (List Piece) :=
  wordPiecesFor x e (2 * w.length + 2) false e.tilde [] w

/-- The reader of words with at most so many levels. -/
def expanderFor (output : Option Command → Act Bytes) : Nat → Expander
  | 0 => ⟨fun _ _ => pure [], output⟩
  | n + 1 => ⟨fun e w => wordPieces (expanderFor output n) e w, output⟩

end Act

end Script

end ShellPipeline
