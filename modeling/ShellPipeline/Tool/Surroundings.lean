import ShellPipeline.Number.Binary
import ShellPipeline.Process.Search
import ShellPipeline.Tool.Option

/-!
# Surroundings of programs

`env` runs a program in another environment, `printenv` and `pwd` write what a program is given, and
`sleep` lets time pass.
-/

namespace ShellPipeline

/-- How `env` was called. -/
structure EnvOptions where
  empty : Bool := false
  unset : List String := []
  /-- The character that ends a value that is written. -/
  ending : Char := '\n'
  /-- The directory in which the program is run. -/
  directory : Option String := none
  words : List String := []

namespace EnvOptions

def known : KnownOptions where
  letters := KnownOptions.ofLetters "i0v" ++ [('u', .always), ('C', .always), ('S', .always)]
  names := [("ignore-environment", .never, "i"), ("null", .never, "0"), ("unset", .always, "u"),
    ("chdir", .always, "C"), ("split-string", .always, "S"), ("debug", .never, "v")]
  onlyFirst := true

/-- Splits a text at blanks that stand between no quotes, after a word that goes on. -/
def split (word : Option (List Char)) (quote : Option Char) : List Char → List String
  | [] => (word.map fun cs => String.ofList cs.reverse).toList
  | c :: rest =>
    let goOn (c : Char) : List String := split (some (c :: word.getD [])) quote rest
    match quote with
    | some q => if c = q then split (some (word.getD [])) none rest else goOn c
    | none =>
      if c = '\'' || c = '"' then split (some (word.getD [])) (some c) rest
      else if c = ' ' || ('\t' ≤ c && c ≤ '\r') then
        (word.map fun cs => String.ofList cs.reverse).toList ++ split none none rest
      else goOn c

def use (o : EnvOptions) (key value : String) : Job EnvOptions := do
  match key with
  | "i" => return { o with empty := true }
  | "0" => return { o with ending := '\x00' }
  | "u" =>
    if value = "" || value.toList.contains '=' then
      Job.complain ("cannot unset " ++ Quote.value value ++ ": " ++ Errno.invalidArgument.wording)
      Job.leave (← get).failure
    return { o with unset := o.unset ++ [value] }
  | "C" => return { o with directory := some value }
  | "S" => return { o with words := o.words ++ split none none value.toList }
  | _ => return o

end EnvOptions

namespace Tool

def bindName (e : Environment) (name value : String) : Environment :=
  if (e.lookup name).isSome then e.map fun x => if x.1 = name then (name, value) else x
  else e ++ [(name, value)]

/-- The values at the beginning of words, and the words after them. -/
def takeBindings (e : Environment) : List String → Environment × List String
  | [] => (e, [])
  | word :: rest =>
    let cs := word.toList
    let name := cs.takeWhile (· != '=')
    if name.length = cs.length then (e, word :: rest)
    else
      takeBindings (bindName e (String.ofList name) (String.ofList (cs.drop (name.length + 1)))) rest

/-- The directories in which programs are looked for if an environment names none. -/
def usualPath : String := "/bin:/usr/bin"

/-- Becomes the first program of some paths that can be run. Answers why there is none. -/
def becomeAmong (words : List String) (e : Environment) : Errno → List String → Task Errno
  | fault, [] => pure fault
  | fault, path :: rest => do
    let f ← Task.execute path words e
    if f = .execFormat then Task.execute "/bin/sh" ("/bin/sh" :: path :: words.drop 1) e
    else if isAbsence f then becomeAmong words e fault rest
    else if f = .accessDenied then becomeAmong words e f rest
    else return f

/-- Runs a program in another environment, or writes the environment. -/
def env : Tool :=
  Job.toTool 125 fun words environment => do
    let (o, operands) ← Job.readOptions EnvOptions.known words {} EnvOptions.use
    let operands := o.words ++ operands
    let alone := operands.head? = some "-"
    let operands := if alone then operands.drop 1 else operands
    let start := if o.empty || alone then [] else environment
    let start := start.filter fun x => !o.unset.contains x.1
    let (e, command) := takeBindings start operands
    match command with
    | [] =>
      if o.directory.isSome then Job.misuse "must specify command with --chdir (-C)"
      for (name, value) in e do
        Job.print (name ++ "=" ++ value ++ o.ending.toString)
      return 0
    | name :: _ =>
      if o.ending != '\n' then Job.misuse "cannot specify --null (-0) with command"
      if let some dir := o.directory then
        if let .error fault ← (Task.call (.enter dir) : Task _) then
          Job.complain ("cannot change directory to " ++ Quote.value dir ++ ": " ++ fault.wording)
          Job.leave 125
      let paths := if isPath name then [name]
        else programPaths ((e.lookup "PATH").getD usualPath) name
      let fault ← (becomeAmong command e .noEntry paths : Task _)
      Job.complain (Quote.value name ++ ": " ++ fault.wording)
      if fault = .noEntry && name.toList.contains ' ' then
        Job.complain "use -[v]S to pass options in shebang lines"
      Job.leave (if fault = .noEntry then 127 else 126)

def printenv : Tool :=
  Job.toTool 2 fun words environment => do
    let known : KnownOptions :=
      { letters := KnownOptions.ofLetters "0", names := [("null", .never, "0")], onlyFirst := true }
    let (ending, names) ← Job.readOptions known words "\n" fun _ _ _ => pure "\x00"
    if names.isEmpty then
      for (name, value) in environment do
        Job.print (name ++ "=" ++ value ++ ending)
      return 0
    let mut code := 0
    for name in names do
      match environment.lookup name with
      | some value => Job.print (value ++ ending)
      | none => code := 1
    return code

/-- Whether a path leads to the working directory and has no steps back in it. -/
def isPlaceHere (path : String) : Job Bool := do
  if !path.startsWith "/" || (path.splitOn "/").any fun s => s = "." || s = ".." then return false
  match ← (Task.call (.describe path true) : Task _), ← (Task.call (.describe "." true) : Task _) with
  | .ok a, .ok b => return a.number = b.number
  | _, _ => return false

def pwd : Tool :=
  Job.toTool 1 fun words environment => do
    let known : KnownOptions :=
      { letters := KnownOptions.ofLetters "LP"
        names := [("logical", .never, "L"), ("physical", .never, "P")] }
    let (logical, rest) ← Job.readOptions known words (environment.lookup "POSIXLY_CORRECT").isSome
      fun _ key _ => pure (key = "L")
    unless rest.isEmpty do Job.complain "ignoring non-option arguments"
    if let some path := if logical then environment.lookup "PWD" else none then
      if ← isPlaceHere path then
        Job.print (path ++ "\n")
        return 0
    match ← (Task.call .directory : Task _) with
    | .ok path =>
      Job.print (path ++ "\n")
      return 0
    | .error e =>
      Job.complain ("couldn't find directory entry in '..' with matching i-node: " ++ e.wording)
      return 1

def timeUnits : List (List Char × Nat) :=
  [([], 1), (['s'], 1), (['m'], 60), (['h'], 3600), (['d'], 86400)]

/-- The longest time that is slept, in microseconds. -/
def longestSleep : Nat := 1000000000000000

def duration? (word : String) : Option Nat := do
  let (x, isOut, rest) ← Binary.read .double word.toList
  let unit ← timeUnits.lookup rest
  match x.magnitude with
  | .none => none
  | .infinite => if x.negative || isOut then none else some longestSleep
  | .finite m e =>
    if (x.negative && m != 0) || isOut then none
    else
      let (num, den) := Binary.quotient m e
      some (min longestSleep ((num * unit * 1000000 + den - 1) / den))

def sleep : Tool :=
  Job.toTool 1 fun words _ => do
    let (_, words) ← Job.readOptions {} words () fun _ _ _ => pure ()
    if words.isEmpty then Job.misuse "missing operand"
    for word in words do
      if (duration? word).isNone then
        Job.complain ("invalid time interval " ++ Quote.value word)
    if words.any fun word => (duration? word).isNone then Job.usage
    let total := (words.filterMap duration?).foldl (· + ·) 0
    let _ ← (Task.call (.sleep total) : Task _)
    return 0

end Tool

end ShellPipeline
