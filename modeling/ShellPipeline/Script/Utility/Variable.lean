import ShellPipeline.Script.Expand
import ShellPipeline.Script.Utility

/-!
# Utilities for variables

Variables are marked, taken away, hidden in functions and read from the input. Arguments are set and
shifted, options among them are looked for, and aliases are made.
-/

namespace ShellPipeline

namespace Script

namespace Act

def splitAssignment (text : String) : String × Option String :=
  let cs := text.toList
  let name := cs.takeWhile (· != '=')
  (String.ofList name,
    if name.length < cs.length then some (String.ofList (cs.drop (name.length + 1))) else none)

/-- Writes variables in the order of their names, each after a word. -/
def listVariables (title : String) (shows : Variable → Bool) : Act Unit := do
  let found := (← get).bindings.filter fun x => shows x.2
  for (name, v) in found.mergeSort fun a b => a.1 ≤ b.1 do
    print (title ++ name ++ v.value.elim "" (fun value => "=" ++ quoteValue value) ++ "\n")

def markAll (m : Marking) : List String → Act Unit
  | [] => pure ()
  | word :: rest => do
    match splitAssignment word with
    | (name, some value) =>
      checkName name
      setVariable name value m
    | (name, none) => markVariable name m
    markAll m rest

def hideAll : List String → Act Unit
  | [] => pure ()
  | "-" :: rest => do
    hide (.options (← get).options)
    hideAll rest
  | word :: rest => do
    let (name, value) := splitAssignment word
    let former := (← get).lookup? name
    if former.isNone then checkName name
    hideVariable name
    match value with
    | some value => setVariable name value {}
    | none => if former.isNone then modify fun s => s.putVariable name {}
    hideAll rest

def optionNames : List (String × Char) :=
  [("errexit", 'e'), ("noglob", 'f'), ("ignoreeof", 'I'), ("interactive", 'i'), ("monitor", 'm'),
    ("noexec", 'n'), ("stdin", 's'), ("xtrace", 'x'), ("verbose", 'v'), ("vi", 'V'),
    ("emacs", 'E'), ("noclobber", 'C'), ("allexport", 'a'), ("notify", 'b'), ("nounset", 'u'),
    ("privileged", 'p'), ("nolog", '\x01'), ("debug", '\x02')]

def switchOption (on : Bool) (letter : Char) : Act Unit :=
  modify fun s =>
    let others := s.options.filter (· != letter)
    let others := if on && letter = 'V' then others.filter (· != 'E')
      else if on && letter = 'E' then others.filter (· != 'V') else others
    { s with options := if on then letter :: others else others }

/-- Sets the options of letters, or takes them back. Answers whether a name is wanted. -/
def switchLetters (on : Bool) : List Char → Act Bool
  | [] => pure false
  | 'o' :: rest => do
    let _ ← switchLetters on rest
    return true
  | c :: rest => do
    unless optionNames.any (·.2 = c) do fail ("Illegal option -" ++ c.toString)
    switchOption on c
    switchLetters on rest

/-- Sets the option with a name, or writes all of them. -/
def switchNamed (on : Bool) (name : Option String) : Act Unit := do
  let s ← get
  match name with
  | some name =>
    match optionNames.lookup name with
    | some letter => switchOption on letter
    | none => fail ("Illegal option -o " ++ name)
  | none =>
    if on then
      print "Current option settings\n"
      for (name, letter) in optionNames do
        let padding := String.ofList (List.replicate (16 - name.length) ' ')
        print (name ++ padding ++ (if s.has letter then "on" else "off") ++ "\n")
    else
      for (name, letter) in optionNames do
        print ("set " ++ (if s.has letter then "-o " else "+o ") ++ name ++ "\n")

def setArguments (words : List String) : Act Unit :=
  modify fun s => { s with arguments := words, optionIndex := 1, optionPlace := none }

/-- Reads options and arguments from at most so many words. -/
def switchAll : Nat → List String → Act Unit
  | 0, _ => pure ()
  | _, [] => pure ()
  | n + 1, word :: rest => do
    match word.toList with
    | ['-'] =>
      switchOption false 'x'
      switchOption false 'v'
      unless rest.isEmpty do setArguments rest
    | ['-', '-'] => setArguments rest
    | sign :: cs =>
      if sign = '-' || sign = '+' then
        let on := sign = '-'
        if ← switchLetters on cs then
          switchNamed on rest.head?
          switchAll n (rest.drop 1)
        else switchAll n rest
      else setArguments (word :: rest)
    | [] => setArguments (word :: rest)

/-- Says that an option is not known, or keeps it silent. -/
def optionFault (silent : Bool) (c : Char) (message : String) : Act Unit := do
  if silent then assign "OPTARG" c.toString
  else
    writeTo standardError message
    unsetVariable "OPTARG"

/-- Sets what is known after a search for an option. -/
def endSearch (name : String) (c : Char) (index : Nat) (place : Option Nat) : Act Unit := do
  setVariable optionIndexName (decimal index) {}
  assign name c.toString
  modify fun s => { s with optionIndex := index, optionPlace := place }

/-- The word in which the next option stands, with its place, and the number of the word after
it. -/
def nextOption (words : List String) (index : Nat) (place : Option Nat) :
    Option (List Char × Nat) × Nat :=
  let going := match place with
    | some n => if index ≤ 1 then [] else (words.getD (index - 2) "").toList.drop n
    | none => []
  if !going.isEmpty then (some (going, index), index)
  else match words[index - 1]?.map String.toList with
    | some ['-', '-'] => (none, index + 1)
    | some ('-' :: c :: cs) => (some (c :: cs, index + 1), index + 1)
    | _ => (none, index)

def searchOption (letters : List Char) (name : String) (words : List String) : Act Nat := do
  let s ← get
  let silent := letters.head? = some ':'
  match nextOption words s.optionIndex s.optionPlace with
  | (none, index) =>
    endSearch name '?' index none
    return 1
  | (some (c :: rest, index), _) =>
    let place (size : Nat) : Option Nat :=
      some ((words.getD (index - 2) "").length - size)
    match optionKind letters c with
    | none =>
      optionFault silent c ("Illegal option -" ++ c.toString ++ "\n")
      endSearch name '?' index (place rest.length)
    | some false =>
      assign "OPTARG" ""
      endSearch name c index (place rest.length)
    | some true =>
      if !rest.isEmpty then
        assign "OPTARG" (String.ofList rest)
        endSearch name c index none
      else match words[index - 1]? with
        | some value =>
          assign "OPTARG" value
          endSearch name c (index + 1) none
        | none =>
          optionFault silent c ("No arg for -" ++ c.toString ++ " option\n")
          endSearch name (if silent then ':' else '?') index none
    return 0
  | (some ([], index), _) =>
    endSearch name '?' index none
    return 1

/-- The pieces of a line that was read, and whether the input ended before its end. -/
structure LineRead where
  pieces : List Piece := []
  afterBackslash : Bool := false
  ended : Bool := false

def readLine (raw : Bool) : Act LineRead :=
  keepOn (m := Act) (fun l => do
    match ← task (Task.read 0 1) with
    | .error e =>
      if e = .interrupted then
        noteSignals
        if (← get).pending.isEmpty then return (l, true)
      return ({ l with ended := true }, false)
    | .ok [] => return ({ l with ended := true }, false)
    | .ok (b :: _) =>
      let c := charOfByte b
      if b = 0 then return (l, true)
      else if l.afterBackslash then
        let pieces := if c = '\n' then .opening false :: .closing :: l.pieces
          else .opening false :: .char c true :: .closing :: l.pieces
        return ({ l with pieces, afterBackslash := false }, true)
      else if !raw && c = '\\' then return ({ l with afterBackslash := true }, true)
      else if c = '\n' then return (l, false)
      else return ({ l with pieces := .char c false :: l.pieces }, true)) roundLimit
    ({ pieces := [.opening false] } : LineRead)

def assignFields (fields : List String) : List String → Act Unit
  | [] => pure ()
  | name :: rest => do
    assign name (fields.headD "")
    assignFields (fields.drop 1) rest

/-- The text of an alias as it could be typed. -/
def aliasText (name value : String) : String :=
  name ++ "=" ++ quoteValue value ++ "\n"

def aliasAll : List String → Act Nat
  | [] => pure 0
  | word :: rest => do
    let status ← match word.toList with
      | [] => do
        writeTo standardError "alias:  not found\n"
        pure 1
      | first :: cs =>
        let name := String.ofList (first :: cs.takeWhile (· != '='))
        if name.length < word.length then do
          let value := String.ofList (cs.drop name.length)
          modify fun s =>
            { s with aliases := (s.aliases.filter (·.1 != name)) ++ [(name, value)] }
          pure 0
        else match (← get).aliases.lookup word with
          | some value => do
            print (aliasText word value)
            pure 0
          | none => do
            writeTo standardError ("alias: " ++ word ++ " not found\n")
            pure 1
    return max status (← aliasAll rest)

def unaliasAll : List String → Act Nat
  | [] => pure 0
  | name :: rest => do
    let s ← get
    let known := (s.aliases.lookup name).isSome
    if known then set { s with aliases := s.aliases.filter (·.1 != name) }
    else writeTo standardError ("unalias: " ++ name ++ " not found\n")
    return max (if known then 0 else 1) (← unaliasAll rest)

end Act

namespace Utility

def marking (name : String) (m : Marking) (shows : Variable → Bool) : Utility where
  isSpecial := true
  assigns := true
  run := fun _ _ words => do
    let (options, words) ← Act.options "p" words
    if !options.isEmpty || words.isEmpty then Act.listVariables (name ++ " ") shows
    else Act.markAll m words
    return 0

def exporting : Utility :=
  marking "export" { exported := true } Variable.exported

def keeping : Utility :=
  marking "readonly" { isReadOnly := true } Variable.isReadOnly

def unset : Utility where
  isSpecial := true
  run := fun _ _ words => do
    let (options, names) ← Act.options "vf" words
    let functions := (options.getLast?.map Prod.fst) = some 'f'
    for name in names do
      if functions then
        modify fun s => { s with functions := s.functions.filter (·.1 != name) }
      else
        Act.checkName name
        Act.unsetVariable name
    return 0

def concealing : Utility where
  isSpecial := true
  assigns := true
  run := fun _ _ words => do
    if (← get).hidden.isEmpty then Act.fail "not in a function"
    Act.hideAll words
    return 0

def set : Utility where
  isSpecial := true
  run := fun _ _ words => do
    if words.isEmpty then Act.listVariables "" fun v => v.value.isSome
    else Act.switchAll (words.length + 1) words
    return 0

def shift : Utility where
  isSpecial := true
  run := fun _ _ words => do
    let n ← match words with
      | [] => pure 1
      | word :: _ => Act.number word
    let s ← get
    if s.arguments.length < n then Act.fail "can't shift that many"
    Act.setArguments (s.arguments.drop n)
    return 0

def getopts : Utility :=
  .ofWords fun words => do
    match ← Act.noOptions words with
    | letters :: name :: words =>
      let s ← get
      let words := if words.isEmpty then s.arguments else words
      if words.length + 1 < s.optionIndex then
        modify fun s => { s with optionIndex := 1, optionPlace := none }
      Act.searchOption letters.toList name words
    | _ => Act.fail "Usage: getopts optstring var [arg...]"

def read : Utility :=
  .ofWords fun words => do
    let (options, names) ← Act.options "p:r" words
    if let some message := options.lookup 'p' then
      if let .ok info ← Act.call (.describeOpen 0) then
        if info.kind = .terminal then Act.writeTo standardError message
    if names.isEmpty then Act.fail "arg count"
    let l ← Act.readLine (options.lookup 'r').isSome
    let ps := (Piece.closing :: l.pieces).reverse
    let fields := Cutting.fieldsOf (← get).separators (some names.length) ps
    Act.assignFields (fields.map fun f => String.ofList (Piece.text f)) names
    return if l.ended then 1 else 0

def makeAliases : Utility :=
  .ofWords fun words => do
    if words.isEmpty then
      let aliases := (← get).aliases
      for (name, value) in aliases.mergeSort fun a b => State.groupOf a.1 ≤ State.groupOf b.1 do
        Act.print (Act.aliasText name value)
      return 0
    Act.aliasAll words

def unalias : Utility :=
  .ofWords fun words => do
    let (options, names) ← Act.options "a" words
    if !options.isEmpty then
      modify fun s => { s with aliases := [] }
      return 0
    Act.unaliasAll names

end Utility

end Script

end ShellPipeline
