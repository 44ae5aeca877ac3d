import ShellPipeline.Text.Locale
import ShellPipeline.Text.Numeral

/-!
# Quoting in messages

Messages of tools show names and values between quotes. Values are shown with backslashes. Names of
files are shown in a way that could be typed again: without quotes if nothing in them needs them,
between single or double quotes, and with escapes for what cannot be shown.
-/

namespace ShellPipeline

namespace Quote

def isPlain (c : Char) : Bool :=
  ' ' ≤ c && c ≤ '~'

/-- The control characters that have a letter of their own. -/
def controlLetters : List (Char × Char) :=
  [('\x07', 'a'), ('\x08', 'b'), ('\x0c', 'f'), ('\n', 'n'), ('\r', 'r'), ('\t', 't'),
    ('\x0b', 'v')]

def octalDigits (n : Nat) : List Char :=
  [digitChar (n / 64 % 8), digitChar (n / 8 % 8), digitChar (n % 8)]

def controlEscape (c : Char) : List Char :=
  match controlLetters.lookup c with
  | some letter => ['\\', letter]
  | none => '\\' :: octalDigits c.toNat

def valueChar (c : Char) : List Char :=
  if c = '\'' || c = '\\' then ['\\', c]
  else if isPlain c then [c]
  else controlEscape c

def value (s : String) : String :=
  "'" ++ String.ofList (s.toList.flatMap valueChar) ++ "'"

def specials : List Char :=
  [' ', '!', '"', '$', '&', '(', ')', '*', ';', '<', '=', '>', '[', '^', '\x60', '|', '\\', '?',
    '\'']

/-- The characters that are special only at the beginning of a name. -/
def firstSpecials : List Char :=
  ['#', '~']

def needsQuotes (cs : List Char) : Bool :=
  cs.isEmpty || cs = ['\x7b'] || cs = ['\x7d'] || (cs.head?.any firstSpecials.contains)
    || cs.any fun c => specials.contains c || !isPlain c

def isCalm (c : Char) : Bool :=
  c.isAlphanum || [' ', '\'', '%', '+', ',', '-', '.', '/', ':', ']', '_'].contains c

/-- A name between single quotes. What cannot be shown stands outside of them. -/
def single (inside : Bool) : List Char → List Char
  | [] => if inside then ['\''] else []
  | c :: rest =>
    if isPlain c then
      let shown := if c = '\'' then ['\'', '\\', '\'', '\''] else [c]
      (if inside then [] else ['\'', '\'']) ++ shown ++ single true rest
    else
      (if inside then ['\'', '$', '\''] else []) ++ controlEscape c ++ single false rest
      
/-- The end of a name whose last characters cannot be shown. -/
def quoted (cs : List Char) : String :=
  String.ofList ('\'' :: single true cs)

def name (s : String) : String :=
  let cs := s.toList
  if cs.contains '\'' && cs.all isCalm then "\"" ++ s ++ "\""
  else if cs.contains '\'' && !cs.all isPlain then "''" ++ quoted cs
  else quoted cs

/-- A name that is quoted if it has to be. -/
def nameIfNeeded (s : String) : String :=
  if needsQuotes s.toList then name s else s

/-- A name before a colon, which is quoted if it has to be or holds a colon. -/
def subject (s : String) : String :=
  if s.toList.contains ':' then name s else nameIfNeeded s

end Quote

end ShellPipeline
