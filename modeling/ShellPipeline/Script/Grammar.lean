import ShellPipeline.Script.Spelling

/-!
# Reading commands

Tokens are read one after the other. Whether a word is a keyword or an alias depends on where it
stands. The reader of commands is built one level of nesting after the other: what is read within a
command is read by the reader of the level below.
-/

namespace ShellPipeline

namespace Script

/-- What is looked for in a token. -/
structure Expected where
  /-- Whether ends of lines are passed over. -/
  newlines : Bool := false
  /-- Whether a word can be a keyword. -/
  keywords : Bool := false
  /-- Whether a word can be an alias. -/
  aliases : Bool := false
  /-- Whether parameters in a word are left as they are. -/
  literal : Bool := false

/-- What is looked for where a command can begin after ends of lines. -/
def Expected.command : Expected :=
  { newlines := true, keywords := true, aliases := true }

/-- Where a list of commands stands. -/
inductive ListKind where
  | line
  | inner
  /-- It stands in a command and may be empty. -/
  | optional
deriving DecidableEq, Repr

/-- The names of the commands that are part of the interpreter and that no function replaces. -/
def specialCommands : List String :=
  [".", ":", "break", "continue", "eval", "exec", "exit", "export", "local", "readonly", "return",
    "set", "shift", "times", "trap", "unset"]

/-- The names of the other commands that are part of the interpreter. -/
def plainCommands : List String :=
  ["[", "alias", "bg", "cd", "chdir", "command", "echo", "false", "fg", "getopts", "hash", "jobs",
    "kill", "printf", "pwd", "read", "test", "true", "type", "ulimit", "umask", "unalias", "wait"]

namespace Reader

/-- Passes over blanks and comments. Answers the next character. -/
def skipBlanks : Nat → Reader (Option Char)
  | 0 => peek
  | n + 1 => do
    match ← peekJoined with
    | some ' ' =>
      skip
      skipBlanks n
    | some '\t' =>
      skip
      skipBlanks n
    | some '#' =>
      skipComment n
      skipBlanks n
    | c => return c
where
  /-- Passes over characters until the line ends. -/
  skipComment : Nat → Reader Unit
    | 0 => pure ()
    | n + 1 => do
      match ← peek with
      | none => return
      | some '\n' => return
      | some _ =>
        skip
        skipComment n

def readOperator (c : Char) : Reader Token := do
  skip
  if ← skipIf c then return .operator (String.ofList [c, c])
  return .operator c.toString

def readRedirection (c : Char) (digit : Option Nat) : Reader Token := do
  skip
  if c = '>' then
    let fd := digit.getD 1
    if ← skipIf '>' then return .redirection fd (.file .append)
    if ← skipIf '|' then return .redirection fd (.file .overwrite)
    if ← skipIf '&' then return .redirection fd .descriptor
    return .redirection fd (.file .write)
  else
    let fd := digit.getD 0
    if ← skipIf '<' then return .redirection fd (.document (← skipIf '-'))
    if ← skipIf '&' then return .redirection fd .descriptor
    if ← skipIf '>' then return .redirection fd (.file .both)
    return .redirection fd (.file .read)

/-- Reads a word, or a redirection that begins with a descriptor. -/
def readWord (sub : Nested) (literal : Bool) : Reader Token := do
  let w ← spellAll sub { literal }
  let parts := w.parts.reverse
  match ← peek with
  | some c =>
    if !w.quoted && (c = '<' || c = '>') then
      match parts with
      | [] => return ← readRedirection c none
      | [.char d false] => if d.isDigit then return ← readRedirection c (some (digitValue d))
      | _ => pure ()
  | none => pure ()
  return .word parts w.quoted

def readPlainToken (sub : Nested) (literal : Bool) : Reader Token := do
  match ← skipBlanks roundLimit with
  | none => return .ending
  | some '\n' =>
    skip
    countLine
    return .newline
  | some '(' =>
    skip
    return .operator "("
  | some ')' =>
    skip
    return .operator ")"
  | some c =>
    if c = '&' || c = '|' || c = ';' then readOperator c
    else readWord sub literal

/-- Takes the token that was put back, or reads one. -/
def takeToken (sub : Nested) (literal : Bool) : Reader Token := do
  match (← get).returned with
  | some t =>
    modify fun r => { r with returned := none }
    return t
  | none => readPlainToken sub literal

def giveBack (t : Token) : Reader Unit :=
  modify fun r => { r with returned := some t }

/-- Passes over ends of lines, with the documents after them. -/
def skipLines (sub : Nested) (literal : Bool) : Nat → Token → Reader Token
  | n + 1, .newline => do
    readDocuments sub
    modify fun r => { r with afterAlias := false }
    skipLines sub literal n (← takeToken sub literal)
  | _, t => pure t

/-- Reads a token where something is expected, after at most so many aliases. -/
def readTokenFor (sub : Nested) : Nat → Expected → Reader Token
  | 0, _ => fault "too many aliases"
  | n + 1, e => do
    let t ← takeToken sub e.literal
    let t ← if e.newlines then skipLines sub e.literal roundLimit t else pure t
    let afterAlias := (← get).afterAlias
    modify fun r => { r with afterAlias := false }
    let e := { e with aliases := e.aliases || afterAlias }
    match t with
    | .word w false =>
      match w.text? with
      | none => return t
      | some cs =>
        let text := String.ofList cs
        if e.keywords && Token.keywords.contains text then return .keyword text
        if e.aliases then
          let r ← get
          if let some value := r.aliases.lookup text then
            if !r.source.aliases.any (·.name = text) then
              pushAlias text value
              return ← readTokenFor sub n e
        return t
    | t => return t

def readToken (sub : Nested) (e : Expected) : Reader Token :=
  readTokenFor sub roundLimit e

def readKeyword (sub : Nested) (e : Expected) (text : String) : Reader Unit := do
  let t ← readToken sub e
  unless t.isKeyword text do unexpected t (some (Token.keyword text).wording)

def descriptorOf (fd : Nat) (w : Word) : Redirection :=
  match w with
  | [.char c false] =>
    if c.isDigit then .descriptor fd (some (digitValue c))
    else if c = '-' then .descriptor fd none
    else .named fd w
  | _ => .named fd w

def readTarget (sub : Nested) (fd : Nat) (kind : RedirectionKind) : Reader Redirection := do
  let literal := match kind with
    | .document _ => true
    | _ => false
  let t ← readToken sub { literal }
  match t with
  | .word w quoted =>
    match kind with
    | .file how => return .file fd how w
    | .descriptor => return descriptorOf fd w
    | .document stripsTabs =>
      let r ← get
      let number := r.nextDocument
      let a : Announced := { number, ending := w.unquoted, stripsTabs, expands := !quoted }
      set { r with nextDocument := number + 1, announced := r.announced ++ [a] }
      return .document fd number
  | t => unexpected t none

def readRedirections (sub : Nested) : Nat → List Redirection → Expected →
    Reader (List Redirection)
  | 0, done, _ => pure done.reverse
  | n + 1, done, e => do
    match ← readToken sub e with
    | .redirection fd kind =>
      let r ← readTarget sub fd kind
      readRedirections sub n (r :: done) {}
    | t =>
      giveBack t
      return done.reverse

/-- A simple command that is being read. -/
structure SimpleParts where
  assignments : List Word := []
  words : List Word := []
  redirections : List Redirection := []

def SimpleParts.toCommand (p : SimpleParts) (line : Nat) : Command :=
  .simple line p.assignments.reverse p.words.reverse p.redirections.reverse

def readFunction (sub : Nested) (command : Reader Command) (name : Word) : Reader Command := do
  let t ← readToken sub {}
  unless t.isOperator ")" do unexpected t (some (Token.operator ")").wording)
  match name.text? with
  | some cs =>
    let text := String.ofList cs
    if !isName cs || specialCommands.contains text then fault "Bad function name"
    let line := (← get).source.line
    return .define text line (← command)
  | none => fault "Bad function name"

def readSimple (sub : Nested) (command : Reader Command) (line : Nat) :
    Nat → SimpleParts → Reader Command
  | 0, p => pure (p.toCommand line)
  | n + 1, p => do
    let first := p.words.isEmpty
    let t ← readToken sub { aliases := first }
    match t with
    | .word w _ =>
      if first && w.isAssignment then
        readSimple sub command line n { p with assignments := w :: p.assignments }
      else readSimple sub command line n { p with words := w :: p.words }
    | .redirection fd kind =>
      let r ← readTarget sub fd kind
      readSimple sub command line n { p with redirections := r :: p.redirections }
    | t =>
      match p.words with
      | [name] =>
        if t.isOperator "(" && p.assignments.isEmpty && p.redirections.isEmpty then
          return ← readFunction sub command name
      | _ => pure ()
      giveBack t
      return p.toCommand line

def readValues (sub : Nested) : Nat → List Word → Reader (List Word)
  | 0, done => pure done.reverse
  | n + 1, done => do
    match ← readToken sub {} with
    | .word w _ => readValues sub n (w :: done)
    | .newline =>
      giveBack .newline
      return done.reverse
    | t =>
      unless t.isOperator ";" do unexpected t none
      return done.reverse

def allArguments : Word :=
  [.mark, .parameter "@" .value false [], .mark]

end Reader

/-- The readers of lists and commands one level below. -/
structure Below where
  list : ListKind → Reader (Option Command)
  command : Expected → Reader Command

namespace Reader

def innerList (b : Below) : Reader Command := do
  return (← b.list .inner).getD default

def readBranch (sub : Nested) (b : Below) : Reader Command := do
  readKeyword sub {} "then"
  innerList b

/-- Reads the rest of a conditional command after its first branch. -/
def readBranches (sub : Nested) (b : Below) : Nat → Reader (Option Command)
  | 0 => pure none
  | n + 1 => do
    let t ← readToken sub {}
    if t.isKeyword "elif" then
      let test ← innerList b
      let yes ← readBranch sub b
      return some (.choose test yes (← readBranches sub b n))
    else if t.isKeyword "else" then return some (← innerList b)
    else
      giveBack t
      return none

/-- Reads the patterns of a case after its first word. -/
def readPatterns (sub : Nested) : Nat → List Word → Reader (List Word)
  | 0, done => pure done.reverse
  | n + 1, done => do
    let t ← readToken sub {}
    if t.isOperator "|" then
      match ← readToken sub {} with
      | .word w _ => readPatterns sub n (w :: done)
      | _ => readPatterns sub n (done.headD [] :: done)
    else
      unless t.isOperator ")" do unexpected t (some (Token.operator ")").wording)
      return done.reverse

def patternOf (t : Token) (before : Word) : Word :=
  match t with
  | .word w _ => w
  | .keyword text => Word.ofText text.toList
  | _ => before

def readCases (sub : Nested) (b : Below) (before : Word) : Nat → List Case → Reader (List Case)
  | 0, done => pure done.reverse
  | n + 1, done => do
    let t ← readToken sub { newlines := true, keywords := true }
    if t.isKeyword "esac" then return done.reverse
    let t ← if t.isOperator "(" then readToken sub {} else pure t
    let patterns ← readPatterns sub roundLimit [patternOf t before]
    let body ← b.list .optional
    let done := (patterns, body) :: done
    let t ← readToken sub { newlines := true, keywords := true }
    if t.isKeyword "esac" then return done.reverse
    unless t.isOperator ";;" do unexpected t (some (Token.operator ";;").wording)
    readCases sub b before n done

def readChoice (sub : Nested) (b : Below) (line : Nat) : Reader Command := do
  match ← readToken sub {} with
  | .word w _ =>
    readKeyword sub { newlines := true, keywords := true, aliases := true } "in"
    return .cases line w (← readCases sub b w roundLimit [])
  | t => unexpected t (some "word")

def readEach (sub : Nested) (b : Below) (line : Nat) : Reader Command := do
  let t ← readToken sub {}
  let name : Option (List Char) := match t with
    | .word w false => w.text?.filter isName
    | _ => none
  match name with
  | none => fault "Bad for loop variable"
  | some name =>
    let t ← readToken sub .command
    let words ← if t.isKeyword "in" then readValues sub roundLimit []
      else do
        unless t.isOperator ";" do giveBack t
        pure [allArguments]
    readKeyword sub .command "do"
    return .each line (String.ofList name) words (← innerList b)

/-- Reads the command that begins with a keyword, without its end, and the keyword that ends it. -/
def readCompound (sub : Nested) (b : Below) (line : Nat) (keyword : String) :
    Reader (Command × Option String) := do
  match keyword with
  | "if" =>
    let test ← innerList b
    let yes ← readBranch sub b
    return (.choose test yes (← readBranches sub b roundLimit), some "fi")
  | "while" | "until" =>
    let test ← innerList b
    readKeyword sub {} "do"
    return (.loop (keyword = "until") test (← innerList b), some "done")
  | "for" => return (← readEach sub b line, some "done")
  | "case" => return (← readChoice sub b line, none)
  | "\x7b" => return (← innerList b, some "\x7d")
  | keyword => unexpected (.keyword keyword) none

def redirect (line : Nat) (c : Command) (rs : List Redirection) : Command :=
  if rs.isEmpty then c
  else match c with
    | .subshell line c _ => .subshell line c rs
    | c => .redirected line c rs

def readRedirected (sub : Nested) (line : Nat) (c : Command) : Reader Command := do
  let rs ← readRedirections sub roundLimit [] { keywords := true, aliases := true }
  return redirect line c rs

def readCommand (sub : Nested) (b : Below) (e : Expected) : Reader Command := do
  let line := (← get).source.line
  let t ← readToken sub e
  match t with
  | .word _ _ | .redirection _ _ =>
    giveBack t
    readSimple sub (b.command .command) (← get).source.line roundLimit {}
  | .keyword keyword =>
    let (c, ending) ← readCompound sub b line keyword
    if let some ending := ending then readKeyword sub {} ending
    readRedirected sub line c
  | t =>
    unless t.isOperator "(" do unexpected t none
    let c ← innerList b
    let t ← readToken sub {}
    unless t.isOperator ")" do unexpected t (some (Token.operator ")").wording)
    readRedirected sub line (.subshell line c [])

def readPiped (sub : Nested) (b : Below) : Nat → List Command → Reader (List Command)
  | 0, done => pure done.reverse
  | n + 1, done => do
    let t ← readToken sub {}
    if t.isOperator "|" then
      readPiped sub b n ((← readCommand sub b .command) :: done)
    else
      giveBack t
      return done.reverse

def readPipeline (sub : Nested) (b : Below) (e : Expected) : Reader Command := do
  let t ← readToken sub e
  let negated := t.isKeyword "!"
  unless negated do giveBack t
  let first ← readCommand sub b (if negated then { keywords := true, aliases := true } else {})
  let all ← readPiped sub b roundLimit [first]
  let c := match all with
    | [c] => c
    | cs => .pipeline cs false
  return if negated then .opposite c else c

/-- Reads the pipelines after one that decides whether they are run. -/
def readChain (sub : Nested) (b : Below) : Nat → Command → Reader Command
  | 0, done => pure done
  | n + 1, done => do
    let t ← readToken sub {}
    if t.isOperator "&&" then
      readChain sub b n (.both done (← readPipeline sub b .command))
    else if t.isOperator "||" then
      readChain sub b n (.either done (← readPipeline sub b .command))
    else
      giveBack t
      return done

def inBackground (line : Nat) (c : Command) : Command :=
  match c with
  | .pipeline cs _ => .pipeline cs true
  | .redirected line c rs => .background line c rs
  | c => .background line c []

def join (first : Option Command) (second : Command) : Command :=
  first.elim second (.sequence · second)

/-- Reads a list after a command. Answers nothing for a list without commands. -/
def readListFor (sub : Nested) (b : Below) (kind : ListKind) :
    Nat → Option Command → Reader (Option Command)
  | 0, done => pure done
  | n + 1, done => do
    let t ← readToken sub { newlines := kind != .line, keywords := true, aliases := true }
    match t with
    | .newline =>
      readDocuments sub
      return done
    | .ending =>
      readDocuments sub
      giveBack .ending
      return done
    | _ => pure ()
    giveBack t
    if (kind = .optional || (kind = .inner && done.isSome)) && t.endsList then return done
    let line := (← get).source.line
    let c ← readChain sub b roundLimit (← readPipeline sub b {})
    let t ← readToken sub {}
    let done := some (join done (if t.isOperator "&" then inBackground line c else c))
    match t with
    | .ending =>
      readDocuments sub
      giveBack t
      return done
    | .newline => giveBack t
    | t =>
      unless t.isOperator "&" || t.isOperator ";" do
        if kind = .line then unexpected t none
        giveBack t
        return done
    readListFor sub b kind n done

def readClose (sub : Nested) : Reader Unit := do
  let t ← readToken sub {}
  unless t.isOperator ")" do unexpected t (some (Token.operator ")").wording)

/-- What stands within words, given the readers of the level below. -/
def nestedIn (b : Below) : Nested where
  list := b.list .optional
  close := readClose ⟨b.list .optional, pure ()⟩

def levels : Nat → Below
  | 0 => ⟨fun _ => fault "too deep", fun _ => fault "too deep"⟩
  | n + 1 =>
    { list := fun kind => do
        let b := levels n
        readListFor (nestedIn b) b kind roundLimit none
      command := fun e => do
        let b := levels n
        readCommand (nestedIn b) b e }

end Reader

/-- What came of reading a command. -/
inductive Outcome where
  /-- A command, which may be empty, and what is left. -/
  | command (c : Option Command) (r : Reading)
  | ended
  | incomplete
  | fault (line : Nat) (message : String)

def Reading.isAtEnd (r : Reading) : Bool :=
  match r.returned with
  | some .ending => true
  | _ => false

def Reading.next (r : Reading) : Outcome :=
  let r := { r with returned := none, announced := [], afterAlias := false }
  match ((Reader.levels roundLimit).list .line).run r with
  | .ok (none, r) => if r.isAtEnd then .ended else .command none r
  | .ok (c, r) => .command c r
  | .error .incomplete => .incomplete
  | .error (.fault line message) => .fault line message

/-- Reads a text as it would be read in a document. Answers what is wrong with it if it cannot be
read. -/
def Reading.quotedText (r : Reading) (text : String) : Except String Word :=
  let sub := Reader.nestedIn (Reader.levels roundLimit)
  let layer : Layer := { quoting := .double, isDouble := true }
  let w : Spelling := { document := some ⟨['\x00'], false⟩, layer }
  match (Reader.spellAll sub w).run { r with source := { rest := text.toList } } with
  | .ok (w, _) => .ok w.parts.reverse
  | .error (.fault _ message) => .error message
  | .error .incomplete => .ok []

end Script

end ShellPipeline
