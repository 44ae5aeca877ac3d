import ShellPipeline.Text.Utf8

/-!
# Text in programs

Programs take every byte for a character. In a program a `String` holds only characters below 256,
one for each byte, so that lengths and positions count bytes.
-/

namespace ShellPipeline

def charOfByte (b : UInt8) : Char :=
  Char.ofNat b.toNat

def byteOfChar (c : Char) : UInt8 :=
  c.toNat.toUInt8

def charsOfBytes (bytes : Bytes) : List Char :=
  bytes.map charOfByte

def bytesOfChars (cs : List Char) : Bytes :=
  cs.map byteOfChar

def wordOfBytes (bytes : Bytes) : String :=
  String.ofList (charsOfBytes bytes)

def bytesOfWord (word : String) : Bytes :=
  bytesOfChars word.toList

/-- Whether a text is the same in a program, since all its characters are single bytes. -/
def isPlainText (text : String) : Bool :=
  text.toList.all fun c => c.toNat < 128

/-- The text of a program that stands for a text. -/
def wordOfText (text : String) : String :=
  if isPlainText text then text else wordOfBytes (utf8 text)

/-- The text that the text of a program stands for. -/
def textOfWord (word : String) : String :=
  if isPlainText word then word else decodeText (bytesOfWord word)

end ShellPipeline
