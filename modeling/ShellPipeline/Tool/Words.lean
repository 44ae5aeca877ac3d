import ShellPipeline.Number.Directive
import ShellPipeline.Tool.Escape
import ShellPipeline.Tool.Option
import ShellPipeline.Tool.Quote
import ShellPipeline.Tool.Size

/-!
# Tools that write their words

`echo` writes its words, `yes` repeats them, and `printf` writes them as a format says. The format
is used again as long as there are words.
-/

namespace ShellPipeline

namespace Tool

def isEchoOption (word : String) : Bool :=
  match word.toList with
  | '-' :: c :: rest => (c :: rest).all fun c => c = 'n' || c = 'e' || c = 'E'
  | _ => false

/-- The text of words in which escapes are read, and whether output stops in it. -/
def expandWords : List String → String × Bool
  | [] => ("", false)
  | word :: rest =>
    let (cs, stopped) := Escape.expandEcho word.length [] word.toList
    if stopped then (String.ofList cs, true)
    else
      let (more, stopped) := expandWords rest
      (String.ofList cs ++ (if rest.isEmpty then "" else " ") ++ more, stopped)

def echo : Tool :=
  Job.toTool 1 fun words _ => do
    if words = ["--help"] || words = ["--version"] then return 0
    let options := (words.takeWhile isEchoOption).flatMap String.toList
    let words := words.dropWhile isEchoOption
    let escapes := (options.filter fun c => c = 'e' || c = 'E').getLast? = some 'e'
    let (text, stopped) := if escapes then expandWords words else (" ".intercalate words, false)
    Job.print text
    unless stopped || options.contains 'n' do Job.print "\n"
    return 0

def yes : Tool :=
  Job.toTool 1 fun words _ => do
    let (_, words) ← Job.readOptions {} words () fun _ _ _ => pure ()
    let line := bytesOfWord (" ".intercalate (if words.isEmpty then ["y"] else words) ++ "\n")
    let block := (List.replicate (max 1 (8192 / line.length)) line).flatten
    keepOn (m := Job) (fun _ => do
      match ← (Task.writeAll standardOutput block : Task _) with
      | .ok () => return ((), true)
      | .error e =>
        Job.complainOf "standard output" e
        return ((), false)) roundLimit ()
    return 1

/-- A width or a precision. -/
inductive Measure where
  | absent
  | given (n : Nat)
  | nextWord
deriving DecidableEq, Repr

/-- A directive of a format before its words are known. -/
structure FormatDirective where
  flags : List Char
  width : Measure
  precision : Measure
  /-- The letter that says what is written, if there is one. -/
  conversion : Option Char
  source : List Char
deriving Repr

def readMeasure (cs : List Char) : Measure × List Char :=
  match cs with
  | '*' :: rest => (.nextWord, rest)
  | _ =>
    match takeNumber 10 cs.length cs with
    | (_, 0, _) => (.absent, cs)
    | (n, _, rest) => (.given n, rest)

def readDirective (cs : List Char) : FormatDirective × List Char :=
  let flags := cs.takeWhile fun c => ['I', '\'', '-', '+', ' ', '#', '0'].contains c
  let (width, after) := readMeasure (cs.drop flags.length)
  let (precision, after) : Measure × List Char := match after with
    | '.' :: rest =>
      match readMeasure rest with
      | (.absent, rest) => (.given 0, rest)
      | found => found
    | _ => (.absent, after)
  let after := after.dropWhile fun c => ['l', 'L', 'h', 'j', 't', 'z'].contains c
  let rest := after.drop 1
  ({ flags, width, precision, conversion := after.head?,
      source := '%' :: cs.take (cs.length - rest.length) }, rest)

namespace FormatDirective

def allowedWith (flag : Char) : String :=
  match flag with
  | 'I' | '\'' => "dfFgGiu"
  | '#' => "aAeEfFgGoxX"
  | '0' => "aAdeEfFgGiouxX"
  | _ => "aAcdeEfFgGiosuxX"

/-- Whether the letter of a directive is known and goes with the rest. -/
def isKnown (d : FormatDirective) : Bool :=
  match d.conversion with
  | none => false
  | some c =>
    (allowedWith ' ').toList.contains c && d.flags.all (fun f => (allowedWith f).toList.contains c)
      && (d.precision = .absent || c != 'c')

end FormatDirective

/-- What `printf` still has to write, and whether it failed. -/
structure FormatState where
  words : List String
  code : Nat := 0

def complainNumber (s : FormatState) (message : String) : Job FormatState := do
  Job.complain message
  return { s with code := 1 }

def checkRest (s : FormatState) (word : String) (rest : List Char) : Job FormatState := do
  if rest.isEmpty then return s
  else if rest.length = word.length then
    complainNumber s (Quote.value word ++ ": expected a numeric value")
  else complainNumber s (Quote.value word ++ ": value not completely converted")

/-- The number of the character that a word names, if it names one. -/
def characterNumber? (word : String) : Option (Nat × List Char) :=
  match word.toList with
  | '\'' :: c :: rest => some (c.toNat, rest)
  | '"' :: c :: rest => some (c.toNat, rest)
  | _ => none

/-- Reads an integer in the base that it shows, and the rest. -/
def readInteger (cs : List Char) : Int × List Char :=
  let blanks := cs.dropWhile Size.isSpace
  let (negative, digits) := match blanks with
    | '-' :: rest => (true, rest)
    | '+' :: rest => (false, rest)
    | rest => (false, rest)
  let (n, size, rest) := match digits with
    | '0' :: x :: d :: more =>
      if (x = 'x' || x = 'X') && isHexDigit d then takeNumber 16 (more.length + 1) (d :: more)
      else if (x = 'b' || x = 'B') && isDigitOf 2 d then
        takeNumber 2 (more.length + 1) (d :: more)
      else takeNumber 8 digits.length digits
    | '0' :: _ => takeNumber 8 digits.length digits
    | _ => takeNumber 10 digits.length digits
  if size = 0 then (0, cs) else (if negative then -(n : Int) else n, rest)

def warnIgnored (rest : List Char) : Job Unit := do
  unless rest.isEmpty do
    Job.complain ("warning: " ++ String.ofList rest
      ++ ": character(s) following character constant have been ignored")

/-- The integer that a word stands for, between two bounds. -/
def integerOf (s : FormatState) (least most : Int) (word : String) : Job (Int × FormatState) := do
  match characterNumber? word with
  | some (n, rest) =>
    warnIgnored rest
    return (n, s)
  | none =>
    let (i, rest) := readInteger word.toList
    if i < least || most < i then
      let s ← complainNumber s (Quote.value word ++ ": Numerical result out of range")
      return (if i < least && least < 0 then least else most, s)
    else return (i, ← checkRest s word rest)

/-- The number with a point that a word stands for. -/
def binaryOf (s : FormatState) (f : BinaryFormat) (word : String) : Job (Binary × FormatState) := do
  match characterNumber? word with
  | some (n, rest) =>
    warnIgnored rest
    return (⟨false, (Binary.ofQuotient f n 1).1⟩, s)
  | none =>
    match Binary.read f word.toList with
    | none => return (⟨false, .finite 0 0⟩, ← checkRest s word word.toList)
    | some (x, out, rest) =>
      if out then
        return (x, ← complainNumber s (Quote.value word ++ ": Numerical result out of range"))
      else return (x, ← checkRest s word rest)

def maxSigned : Int := 9223372036854775807

def maxUnsigned : Int := 18446744073709551615

def maxWidth : Int := 2147483647

def measure (s : FormatState) (what : String) (m : Measure) : Job (Option Int × FormatState) := do
  match m with
  | .absent => return (none, s)
  | .given n => return (some n, s)
  | .nextWord =>
    match s.words with
    | [] => return (some 0, s)
    | word :: words =>
      let (i, s) ← integerOf { s with words } (-maxSigned - 1) maxSigned word
      if maxWidth < i || (what = "field width" && i < -maxWidth - 1) then
        Job.fail ("invalid " ++ what ++ ": " ++ Quote.value word)
      return (some i, s)

def writeDirective (s : FormatState) (d : FormatDirective) : Job FormatState := do
  let (width, s) ← measure s "field width" d.width
  let (precision, s) ← measure s "precision" d.precision
  unless d.isKnown do
    Job.fail (String.ofList d.source ++ ": invalid conversion specification")
  let conversion := d.conversion.getD 's'
  let flags := if (width.getD 0) < 0 then '-' :: d.flags else d.flags
  let precision := precision.bind fun i => if i < 0 then none else some i.toNat
  let d : Directive := { flags, width := (width.getD 0).natAbs, precision, conversion }
  let word := s.words.headD ""
  let s := { s with words := s.words.drop 1 }
  let write (cs : List Char) : Job Unit := Job.put (bytesOfChars cs)
  match conversion with
  | 's' =>
    write (d.text word.toList)
    return s
  | 'c' =>
    write (d.pad [word.toList.headD '\x00'])
    return s
  | 'd' | 'i' =>
    let (i, s) ← integerOf s (-maxSigned - 1) maxSigned word
    write (d.integer i)
    return s
  | 'o' | 'u' | 'x' | 'X' =>
    let (i, s) ← integerOf s (-maxUnsigned) maxUnsigned word
    write (d.natural (i % (maxUnsigned + 1)).toNat)
    return s
  | _ =>
    let (x, s) ← binaryOf s .extended word
    write (d.binary .extended x)
    return s

def writeEscape (e : Escape) : Job Unit := do
  match e with
  | .text cs => Job.put (bytesOfChars cs)
  | .stop => Job.leave 0
  | .fault message => Job.fail message

/-- Writes a word with escapes in it, of at most so many characters. -/
def writeEscaped : Nat → List Char → Job Unit
  | 0, _ => pure ()
  | _, [] => pure ()
  | n + 1, '\\' :: rest => do
    let (e, rest) := Escape.readFormat true rest
    writeEscape e
    writeEscaped n rest
  | n + 1, cs => do
    let plain := cs.takeWhile (· != '\\')
    Job.put (bytesOfChars plain)
    writeEscaped n (cs.drop plain.length)

def writeFormat : Nat → List Char → FormatState → Job FormatState
  | 0, _, s => pure s
  | _, [], s => pure s
  | n + 1, '%' :: '%' :: rest, s => do
    Job.print "%"
    writeFormat n rest s
  | n + 1, '%' :: 'b' :: rest, s => do
    let word := s.words.headD ""
    writeEscaped word.length word.toList
    writeFormat n rest { s with words := s.words.drop 1 }
  | n + 1, '%' :: 'q' :: rest, s => do
    if let word :: _ := s.words then Job.print (Quote.nameIfNeeded word)
    writeFormat n rest { s with words := s.words.drop 1 }
  | n + 1, '%' :: rest, s => do
    let (d, rest) := readDirective rest
    let s ← writeDirective s d
    writeFormat n rest s
  | n + 1, '\\' :: rest, s => do
    let (e, rest) := Escape.readFormat false rest
    writeEscape e
    writeFormat n rest s
  | n + 1, cs, s => do
    let plain := cs.takeWhile fun c => c != '%' && c != '\\'
    Job.put (bytesOfChars plain)
    writeFormat n (cs.drop plain.length) s

/-- Writes a format again as long as words are left and it takes any, at most so many times. -/
def writeAgain (format : List Char) : Nat → FormatState → Job FormatState
  | 0, s => pure s
  | n + 1, s => do
    let next ← writeFormat format.length format s
    if next.words.isEmpty || next.words.length = s.words.length then return next
    writeAgain format n next

def printf : Tool :=
  Job.toTool 1 fun words _ => do
    if words = ["--help"] || words = ["--version"] then return 0
    let words := if words.head? = some "--" then words.drop 1 else words
    match words with
    | [] => Job.misuse "missing operand"
    | format :: words =>
      let s ← writeAgain format.toList (words.length + 1) { words }
      if let word :: _ := s.words then
        Job.complain ("warning: ignoring excess arguments, starting with " ++ Quote.value word)
      return s.code

end Tool

end ShellPipeline
