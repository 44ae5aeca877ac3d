/-!
# Options of the command line

The shell takes one line to carry out, a switch that makes it explain lines instead, and a prompt.
An option that takes a value gets it either attached to its name or from the next argument; that
argument is looked at first, so an option is never taken for a value. A value is settled only when
the next option comes, after which a missing or a repeated one is found. No other arguments are
taken.
-/

namespace ShellPipeline

/-- Why arguments are no options to run with. -/
inductive OptionFault where
  | unknownArgument
  | missingValue
  | repeatedOption
  /-- An option that takes no value has one. -/
  | unneededValue
  | help
  | version
deriving DecidableEq, Repr

/-- An option that takes a value. -/
inductive ValueOption where
  | command
  | prompt
deriving DecidableEq, Repr

/-- What a shell is started with. -/
structure Options where
  /-- The line to carry out instead of reading standard input. -/
  command : Option String := none
  explain : Bool := false
  prompt : String
deriving DecidableEq, Repr

/-- The options that were read so far. -/
structure OptionScan where
  command : Option String := none
  prompt : Option String := none
  explain : Bool := false
  /-- An option that is not settled, with its value if that has come. -/
  pending : Option (ValueOption × Option String) := none
deriving DecidableEq, Repr

namespace OptionScan

def assign (s : OptionScan) (value : String) : ValueOption → Except OptionFault OptionScan
  | .command =>
    if s.command.isSome then .error .repeatedOption else .ok { s with command := some value }
  | .prompt =>
    if s.prompt.isSome then .error .repeatedOption else .ok { s with prompt := some value }

def settle (s : OptionScan) : Except OptionFault OptionScan :=
  match s.pending with
  | none => .ok s
  | some (_, none) => .error .missingValue
  | some (o, some value) => { s with pending := none }.assign value o

/-- Reads an option that takes a value, which may be attached. -/
def readValueOption (s : OptionScan) (o : ValueOption) (attached : Option String) :
    Except OptionFault OptionScan :=
  match s.settle, attached with
  | .error f, _ => .error f
  | .ok s, some value => s.assign value o
  | .ok s, none => .ok { s with pending := some (o, none) }

def readExplain (s : OptionScan) : Except OptionFault OptionScan :=
  match s.settle with
  | .error f => .error f
  | .ok s => if s.explain then .error .repeatedOption else .ok { s with explain := true }

def readFinal (s : OptionScan) (f : OptionFault) : Except OptionFault OptionScan :=
  match s.settle with
  | .error e => .error e
  | .ok _ => .error f

def splitValue (cs : List Char) : List Char × Option String :=
  match cs.span (· ≠ '=') with
  | (name, []) => (name, none)
  | (name, _ :: value) => (name, some (String.ofList value))

/-- Reads an option by its long name, which may have a value attached. -/
def readLong (s : OptionScan) (text : List Char) : Except OptionFault OptionScan :=
  let (name, attached) := splitValue text
  match String.ofList name, attached with
  | "command", _ => s.readValueOption .command attached
  | "prompt", _ => s.readValueOption .prompt attached
  | "explain", none => s.readExplain
  | "help", none => s.readFinal .help
  | "version", none => s.readFinal .version
  | "explain", some _ => .error .unneededValue
  | "help", some _ => .error .unneededValue
  | "version", some _ => .error .unneededValue
  | _, _ => .error .unknownArgument

/-- The value that is attached to a short name, after an equals sign or directly. -/
def attachedValue : List Char → Option String
  | [] => none
  | '=' :: value => some (String.ofList value)
  | value => some (String.ofList value)

/-- Reads an option by its short name, which may have a value attached. -/
def readShort (s : OptionScan) : List Char → Except OptionFault OptionScan
  | 'c' :: rest => s.readValueOption .command (attachedValue rest)
  | 'h' :: _ => s.readFinal .help
  | 'V' :: _ => s.readFinal .version
  | _ => .error .unknownArgument

def readPlain (s : OptionScan) (argument : String) : Except OptionFault OptionScan :=
  match s.pending with
  | some (o, none) => .ok { s with pending := some (o, some argument) }
  | _ => .error .unknownArgument

/-- Reads an argument that is not the end of the options. -/
def readArgument (s : OptionScan) (argument : String) : Except OptionFault OptionScan :=
  match argument.toList with
  | '-' :: '-' :: text => s.readLong text
  | '-' :: c :: text => s.readShort (c :: text)
  | _ => s.readPlain argument

/-- Reads arguments. Nothing may follow two dashes, which end the options. -/
def readAll (s : OptionScan) : List String → Except OptionFault OptionScan
  | [] => s.settle
  | argument :: rest =>
    if argument = "--" then
      if rest.isEmpty then s.settle else .error .unknownArgument
    else match s.readArgument argument with
      | .error f => .error f
      | .ok s => s.readAll rest

end OptionScan

/-- The prompt of a shell that is given none. -/
def Options.defaultPrompt : String := "pipesh$ "

/-- Reads arguments. The prompt comes from the environment if no argument gives one. -/
def Options.read (environment : Option String) (arguments : List String) :
    Except OptionFault Options :=
  match ({} : OptionScan).readAll arguments with
  | .error f => .error f
  | .ok s =>
    .ok ⟨s.command, s.explain, (s.prompt.or environment).getD Options.defaultPrompt⟩

end ShellPipeline
