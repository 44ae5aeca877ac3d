import ShellPipeline.Text.Class
import ShellPipeline.Tool.Option
import ShellPipeline.Tool.Part
import ShellPipeline.Tool.Quote

/-!
# Replacing characters

`tr` replaces, drops and squeezes characters. The characters are given as sets: single characters,
ranges, classes, characters with a number of repetitions, and one that is repeated as often as it
is needed.
-/

namespace ShellPipeline

def charRange (a b : Char) : List Char :=
  (List.range (b.toNat + 1 - a.toNat)).map fun i : Nat => Char.ofNat (a.toNat + i)

def allChars : List Char :=
  (List.range 256).map Char.ofNat

/-- A part of a set. -/
inductive SetPart where
  | single (c : Char)
  | range (a b : Char)
  | named (name : String)
  /-- The characters that count as equal to one. -/
  | equal (c : Char)
  | times (c : Char) (count : Nat)
  /-- A character as often as it is needed. -/
  | filling (c : Char)
deriving DecidableEq, Repr

namespace SetPart

def classMembers (name : String) : List Char :=
  allChars.filter ((charClasses.lookup name).getD fun _ => false)

/-- The characters of a part, with so many of one that fills. -/
def chars (filling : Nat) : SetPart → List Char
  | single c => [c]
  | range a b => charRange a b
  | named name => classMembers name
  | equal c => [c]
  | times c count => List.replicate count c
  | .filling c => List.replicate filling c

def letterClass? : SetPart → Option String
  | named "upper" => some "upper"
  | named "lower" => some "lower"
  | _ => none

def isClass : SetPart → Bool
  | named _ => true
  | _ => false

def isFilling : SetPart → Bool
  | .filling _ => true
  | _ => false

end SetPart

def setSize (filling : Nat) (parts : List SetPart) : Nat :=
  parts.foldl (fun n p => n + (p.chars filling).length) 0

def setChars (filling : Nat) (parts : List SetPart) : List Char :=
  parts.flatMap (·.chars filling)

namespace CharSet

/-- A character of a set, and whether a backslash stands before it. -/
abbrev Marked := Char × Bool

/-- Reads the backslashes of a set of at most so many characters. Answers also warnings. -/
def unescape : Nat → List Char → List Marked × List String
  | 0, _ => ([], [])
  | _, [] => ([], [])
  | _ + 1, ['\\'] =>
    ([('\\', false)], ["warning: an unescaped backslash at end of string is not portable"])
  | n + 1, '\\' :: c :: rest =>
    if isOctalDigit c then
      let (value, size, after) := takeNumber 8 3 (c :: rest)
      if 255 < value then
        let digits := (c :: rest).take size
        let two := String.ofList (digits.take 2)
        let last := String.ofList (digits.drop 2)
        let warning := "warning: the ambiguous octal escape \\" ++ String.ofList digits
          ++ " is being\n\tinterpreted as the 2-byte sequence \\0" ++ two ++ ", " ++ last
        let (more, warnings) := unescape n ((c :: rest).drop 2)
        ((Char.ofNat (value / 8), true) :: more, warning :: warnings)
      else
        let (more, warnings) := unescape n after
        ((Char.ofNat value, true) :: more, warnings)
    else
      let plain := match c with
        | 'a' => '\x07'
        | 'b' => '\x08'
        | 'f' => '\x0c'
        | 'n' => '\n'
        | 'r' => '\r'
        | 't' => '\t'
        | 'v' => '\x0b'
        | c => c
      let (more, warnings) := unescape n rest
      ((plain, true) :: more, warnings)
  | n + 1, c :: rest =>
    let (more, warnings) := unescape n rest
    ((c, false) :: more, warnings)

def showChar (c : Char) : String :=
  if c = '\\' then "\\\\"
  else if Quote.isPlain c then c.toString
  else
    match Quote.controlLetters.lookup c with
    | some letter => String.ofList ['\\', letter]
    | none => String.ofList ('\\' :: Quote.octalDigits c.toNat)

/-- What stands before the end of a class, and what follows it. -/
def untilClosing (delimiter : Char) (done : List Char) :
    List Marked → Option (List Char × List Marked)
  | (c, false) :: (']', false) :: rest =>
    if c = delimiter then some (done.reverse, rest)
    else untilClosing delimiter (c :: done) ((']', false) :: rest)
  | (c, _) :: rest => untilClosing delimiter (c :: done) rest
  | [] => none

def repetition? (cs : List Marked) : Option (Except String SetPart × List Marked) :=
  match cs with
  | (c, _) :: ('*', false) :: rest =>
    let inside := rest.takeWhile (· != (']', false))
    if inside.length = rest.length then none
    else
      let digits := inside.map Prod.fst
      let base := if digits.head? = some '0' then 8 else 10
      let (n, size, after) := takeNumber base digits.length digits
      let rest := rest.drop (inside.length + 1)
      if digits.isEmpty then some (.ok (.filling c), rest)
      else if size = 0 || !after.isEmpty then
        some (.error ("invalid repeat count " ++ Quote.value (String.ofList digits)
          ++ " in [c*n] construct"), rest)
      else some (.ok (if n = 0 then .filling c else .times c n), rest)
  | _ => none

/-- Whether a text begins with a star, digits and a closing bracket. -/
def beginsRepetition : List Marked → Bool
  | ('*', false) :: rest =>
    let after := rest.dropWhile fun x => x.1.isDigit
    after.head? = some (']', false)
  | _ => false

def bracketed? (cs : List Marked) : Option (Except String SetPart × List Marked) :=
  match cs with
  | (':', false) :: rest =>
    match untilClosing ':' [] rest with
    | none => repetition? cs
    | some ([], _) => some (.error "missing character class name '[::]'", [])
    | some (name, after) =>
      let name := String.ofList name
      if (charClasses.lookup name).isSome then some (.ok (.named name), after)
      else if beginsRepetition rest then repetition? cs
      else some (.error ("invalid character class " ++
        Quote.value (String.join (name.toList.map showChar))), [])
  | ('=', false) :: rest =>
    match untilClosing '=' [] rest with
    | none => repetition? cs
    | some ([], _) => some (.error "missing equivalence class character '[==]'", [])
    | some ([c], after) => some (.ok (.equal c), after)
    | some (name, _) =>
      if beginsRepetition rest then repetition? cs
      else some (.error (String.join (name.map showChar)
        ++ ": equivalence class operand must be a single character"), [])
  | _ => repetition? cs

def partsFor : Nat → List Marked → Except String (List SetPart)
  | 0, _ => .ok []
  | _, [] => .ok []
  | _, [(a, _)] => .ok [.single a]
  | _, [(a, _), (b, _)] => .ok [.single a, .single b]
  | n + 1, (a, escaped) :: rest => do
    let found := if a = '[' && !escaped then bracketed? rest else none
    match found with
    | some (.error message, _) => .error message
    | some (.ok part, rest) => return part :: (← partsFor n rest)
    | none =>
      match rest with
      | ('-', false) :: (b, _) :: after =>
        if b < a then
          .error ("range-endpoints of '" ++ showChar a ++ "-" ++ showChar b
            ++ "' are in reverse collating sequence order")
        else return .range a b :: (← partsFor n after)
      | _ => return .single a :: (← partsFor n rest)

end CharSet

/-- What `tr` does. -/
structure CharOptions where
  /-- Whether the first set stands for all other characters. -/
  complements : Bool := false
  /-- Whether the characters of the first set are dropped. -/
  deletes : Bool := false
  /-- Whether repeated characters of the last set are dropped. -/
  squeezes : Bool := false
  /-- Whether the first set is cut to the size of the second one. -/
  truncates : Bool := false

namespace CharOptions

def known : KnownOptions where
  letters := KnownOptions.ofLetters "cCdst"
  names := [("complement", .never, "c"), ("delete", .never, "d"),
    ("squeeze-repeats", .never, "s"), ("truncate-set1", .never, "t")]
  onlyFirst := true

def use (o : CharOptions) (key : String) : CharOptions :=
  match key with
  | "d" => { o with deletes := true }
  | "s" => { o with squeezes := true }
  | "t" => { o with truncates := true }
  | _ => { o with complements := true }

end CharOptions

/-- The parts of two sets side by side, one character at a time but for classes of letters. -/
inductive Pairing where
  | chars (a b : Char)
  /-- A class of letters and its replacement. -/
  | classes (a b : String)
deriving DecidableEq, Repr

/-- Takes the first element off parts: a character, or a class of letters if it is asked for. -/
def takeElement (filling : Nat) : List SetPart → Option (Char × Option String × List SetPart)
  | [] => none
  | p :: rest =>
    match p.chars filling with
    | [] => takeElement filling rest
    | c :: more => some (c, p.letterClass?, more.map .single ++ rest)

def dropClass (parts rest : List SetPart) : List SetPart :=
  match parts with
  | p :: more => if p.letterClass?.isSome then more else rest
  | [] => rest

/-- Pairs the parts of two sets, in at most so many rounds. Classes of letters in the second set
have to stand beside classes of letters. -/
def pairParts (fill : Nat) : Nat → List SetPart → List SetPart → Except String (List Pairing)
  | 0, _, _ => .ok []
  | rounds + 1, source, target =>
    match takeElement fill source, takeElement fill target with
    | some (a, class1, rest1), some (b, class2, rest2) =>
      match class2 with
      | some name =>
        match class1 with
        | none => .error "misaligned [:upper:] and/or [:lower:] construct"
        | some name' => do
          let more ← pairParts fill rounds (dropClass source rest1) (dropClass target rest2)
          return .classes name' name :: more
      | none => do
        let more ← pairParts fill rounds rest1 rest2
        return .chars a b :: more
    | none, some (_, some _, _) => .error "misaligned [:upper:] and/or [:lower:] construct"
    | _, _ => .ok []

def isUniform (cs : List Char) : Bool :=
  match cs with
  | [] => false
  | c :: rest => rest.all (· = c)

/-- What is wrong with two sets of which the second one replaces the first, and else how it does.
-/
def replacements (o : CharOptions) (source target : List SetPart) :
    Except String (List (Char × Char)) := do
  let size1 := if o.complements then 256 - (setChars 0 source).eraseDups.length
    else setSize 0 source
  let fill := size1 - setSize 0 target
  if 1 < (target.filter SetPart.isFilling).length then
    throw "only one [c*] repeat construct may appear in string2"
  if target.any fun p => match p with
    | .equal _ => true
    | _ => false then
    throw "[=c=] expressions may not appear in string2 when translating"
  if target.any fun p => p.isClass && p.letterClass?.isNone then
    throw ("when translating, the only character classes that may appear in\n"
      ++ "string2 are 'upper' and 'lower'")
  let pairs ← if o.complements then pure [] else pairParts fill 4096 source target
  let size2 := setSize fill target
  let mut target := target
  if size2 < size1 && !o.truncates then
    if size2 = 0 then throw "when not truncating set1, string2 must be non-empty"
    if target.getLast?.any SetPart.isClass then
      throw ("when translating with string1 longer than string2,\n"
        ++ "the latter string must not end with a character class")
    target := target ++ ((setChars fill target).getLast?.map fun c =>
      .times c (size1 - size2)).toList
  if o.complements && source.any SetPart.isClass
      && !(setSize fill target = size1 && isUniform (setChars fill target)) then
    throw ("when translating with complemented character classes,\n"
      ++ "string2 must map all characters in the domain to one")
  if o.complements then
    let members := setChars 0 source
    return (allChars.filter fun c => !members.contains c).zip (setChars fill target)
  else
    let pairs ← if pairs.isEmpty then pure [] else pairParts fill 4096 source target
    return pairs.flatMap fun
      | .chars a b => [(a, b)]
      | .classes "lower" "upper" => (SetPart.classMembers "lower").map fun c => (c, c.toUpper)
      | .classes "upper" "lower" => (SetPart.classMembers "upper").map fun c => (c, c.toLower)
      | .classes _ _ => []

/-- How bytes are changed. -/
structure CharTable where
  target : Array UInt8 := (Array.range 256).map Nat.toUInt8
  drops : Array Bool := Array.replicate 256 false
  squeezes : Array Bool := Array.replicate 256 false

def markChars (cs : List Char) : Array Bool :=
  cs.foldl (fun a c => a.setIfInBounds c.toNat true) (Array.replicate 256 false)

/-- Changes a byte, after what was written before in reverse, and the last byte of all. -/
def CharTable.step (t : CharTable) (s : Bytes × Option UInt8) (b : UInt8) :
    Bytes × Option UInt8 :=
  if t.drops.getD b.toNat false then s
  else
    let c := t.target.getD b.toNat b
    if s.2 = some c && t.squeezes.getD c.toNat false then s else (c :: s.1, some c)

namespace Tool

def readSet (word : String) : Job (List SetPart) := do
  let (marked, warnings) := CharSet.unescape word.length word.toList
  for w in warnings do Job.complain w
  match CharSet.partsFor (marked.length + 1) marked with
  | .error message => Job.fail message
  | .ok parts => return parts

def checkSets (o : CharOptions) (words : List String) : Job Unit := do
  let least := if o.deletes = o.squeezes then 2 else 1
  let most := if o.deletes && !o.squeezes then 1 else 2
  if words.isEmpty then Job.misuse "missing operand"
  if words.length < least then
    Job.complain ("missing operand after " ++ Quote.value (words.getLast?.getD ""))
    Job.report (if o.squeezes then
      "Two strings must be given when both deleting and squeezing repeats.\n"
      else "Two strings must be given when translating.\n")
    Job.usage
  if most < words.length then
    Job.complain ("extra operand " ++ Quote.value (words.getD most ""))
    if words.length = 2 then
      Job.report "Only one string may be given when deleting without squeezing repeats.\n"
    Job.usage

def charTable (o : CharOptions) (source : List SetPart) (target : Option (List SetPart)) :
    Job CharTable := do
  if source.any SetPart.isFilling then
    Job.fail "the [c*] repeat construct may not appear in string1"
  let members := setChars 0 source
  let first := if o.complements then allChars.filter fun c => !members.contains c else members
  match target with
  | none =>
    if o.deletes then return { drops := markChars first }
    else return { squeezes := markChars first }
  | some target =>
    if o.deletes then
      if target.any SetPart.isFilling then
        Job.fail "the [c*] construct may appear in string2 only when translating"
      return { drops := markChars first, squeezes := markChars (setChars 0 target) }
    else match replacements o source target with
      | .error message => Job.fail message
      | .ok pairs =>
        let fresh : CharTable := {}
        let table := pairs.foldl (fun t (a, b) => t.setIfInBounds a.toNat b.toNat.toUInt8)
          fresh.target
        let fill := 256
        let squeezes := if o.squeezes then markChars (setChars fill target) else fresh.squeezes
        return { target := table, squeezes }

def tr : Tool :=
  Job.toTool 1 fun words _ => do
    let (o, words) ← Job.readOptions CharOptions.known words ({} : CharOptions) fun o key _ =>
      pure (o.use key)
    checkSets o words
    let source ← readSet (words.headD "")
    let target ← match words with
      | [_, second] => pure (some (← readSet second))
      | _ => pure none
    let table ← charTable o source target
    let _ ← keepOn (m := Job) (fun last => do
      match ← (Task.read 0 readSize : Task _) with
      | .error e => Job.fail ("read error: " ++ e.wording)
      | .ok bytes =>
        let (done, last) := bytes.foldl table.step ([], last)
        Job.put done.reverse
        Job.checkWritten
        return (last, !bytes.isEmpty)) roundLimit none
    return 0

end Tool

end ShellPipeline
