import ShellPipeline.Number.Digits

/-!
# Classes of characters

The classes of characters that have names. They hold only characters below 128.
-/

namespace ShellPipeline

def charClasses : List (String × (Char → Bool)) :=
  [("alnum", Char.isAlphanum), ("alpha", Char.isAlpha), ("blank", fun c => c = ' ' || c = '\t'),
    ("cntrl", fun c => c < ' ' || c = '\x7f'), ("digit", Char.isDigit),
    ("graph", fun c => ' ' < c && c < '\x7f'), ("lower", Char.isLower),
    ("print", fun c => ' ' ≤ c && c < '\x7f'),
    ("punct", fun c => ' ' < c && c < '\x7f' && !c.isAlphanum),
    ("space", fun c => c = ' ' || ('\t' ≤ c && c ≤ '\r')), ("upper", Char.isUpper),
    ("xdigit", isHexDigit)]

def isWordChar (c : Char) : Bool :=
  c.isAlphanum || c = '_'

end ShellPipeline
