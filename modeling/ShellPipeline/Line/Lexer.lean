import ShellPipeline.Line.Token
import ShellPipeline.Text.Blank

/-!
# From characters to tokens

The lexer reads a line one character at a time. Outside quotes, white space and the operators end
a word, a backslash makes the next character literal, and two adjacent `>` are one operator.
Single quotes keep everything literal; between double quotes a backslash is kept unless it stands
before a double quote or another backslash. A quoted empty text is a word. Only the end of the
line can find fault: an open quote, or a backslash with nothing after it.
-/

namespace ShellPipeline

/-- Why a line has no tokens. -/
inductive LexicalError where
  | unterminatedQuote
  /-- The line ends after a backslash outside quotes. -/
  | trailingEscape
deriving DecidableEq, Repr

/-- What the lexer is in the middle of. -/
inductive Lexer.Mode where
  /-- Outside quotes, after the beginning of a word if there is one. -/
  | bare (word : Option String)
  | escaped (word : String)
  | single (word : String)
  | double (word : String)
  | doubleEscaped (word : String)
  /-- After a `>` that may be followed by another one. -/
  | great
deriving DecidableEq, Repr

/-- The tokens read so far and what the lexer is in the middle of. -/
structure Lexer where
  tokens : Array Token := #[]
  mode : Lexer.Mode := .bare none
deriving DecidableEq, Repr

namespace Lexer

/-- The tokens after the end of a word, if one has begun. -/
def flush (tokens : Array Token) : Option String → Array Token
  | none => tokens
  | some w => tokens.push (.item (.word w))

def readBare (tokens : Array Token) (word : Option String) (c : Char) : Lexer :=
  if isBlank c then ⟨flush tokens word, .bare none⟩
  else if c = '|' then ⟨(flush tokens word).push .pipe, .bare none⟩
  else if c = '<' then ⟨(flush tokens word).push (.item (.redirect .input)), .bare none⟩
  else if c = '>' then ⟨flush tokens word, .great⟩
  else if c = '\\' then ⟨tokens, .escaped (word.getD "")⟩
  else if c = '\'' then ⟨tokens, .single (word.getD "")⟩
  else if c = '"' then ⟨tokens, .double (word.getD "")⟩
  else ⟨tokens, .bare (some ((word.getD "").push c))⟩

/-- Whether a backslash between double quotes disappears before a character. -/
def isDoubleEscape (c : Char) : Bool :=
  c = '"' || c = '\\'

def step (l : Lexer) (c : Char) : Lexer :=
  match l with
  | ⟨tokens, .bare word⟩ => readBare tokens word c
  | ⟨tokens, .escaped word⟩ => ⟨tokens, .bare (some (word.push c))⟩
  | ⟨tokens, .single word⟩ =>
    if c = '\'' then ⟨tokens, .bare (some word)⟩ else ⟨tokens, .single (word.push c)⟩
  | ⟨tokens, .double word⟩ =>
    if c = '"' then ⟨tokens, .bare (some word)⟩
    else if c = '\\' then ⟨tokens, .doubleEscaped word⟩
    else ⟨tokens, .double (word.push c)⟩
  | ⟨tokens, .doubleEscaped word⟩ =>
    if isDoubleEscape c then ⟨tokens, .double (word.push c)⟩
    else ⟨tokens, .double ((word.push '\\').push c)⟩
  | ⟨tokens, .great⟩ =>
    if c = '>' then ⟨tokens.push (.item (.redirect (.output .append))), .bare none⟩
    else readBare (tokens.push (.item (.redirect (.output .truncate)))) none c

def finish : Lexer → Except LexicalError (List Token)
  | ⟨tokens, .bare word⟩ => .ok (flush tokens word).toList
  | ⟨tokens, .great⟩ => .ok (tokens.push (.item (.redirect (.output .truncate)))).toList
  | ⟨_, .escaped _⟩ => .error .trailingEscape
  | ⟨_, .single _⟩ => .error .unterminatedQuote
  | ⟨_, .double _⟩ => .error .unterminatedQuote
  | ⟨_, .doubleEscaped _⟩ => .error .unterminatedQuote

def run (l : Lexer) (cs : List Char) : Lexer :=
  cs.foldl step l

@[simp] theorem run_append (l : Lexer) (cs ds : List Char) :
    l.run (cs ++ ds) = (l.run cs).run ds :=
  List.foldl_append

end Lexer

def tokenize (line : String) : Except LexicalError (List Token) :=
  (Lexer.run {} line.toList).finish

end ShellPipeline
