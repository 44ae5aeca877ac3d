/-!
# Help on builtins

The table of the builtins that have help, in the order in which they are listed, and the texts
that are made from it.
-/

namespace ShellPipeline

/-- The help on one builtin. -/
structure HelpEntry where
  name : String
  usage : String
  description : String
deriving DecidableEq, Repr

namespace HelpEntry

def table : List HelpEntry :=
  [⟨"cd", "cd [dir]", "change the working directory (default $HOME)"⟩,
    ⟨"exit", "exit [status]", "leave the shell with status, or the last status"⟩,
    ⟨"help", "help [command...]", "list builtins or describe the named ones"⟩,
    ⟨"history", "history", "print the lines entered so far"⟩,
    ⟨"pwd", "pwd", "print the working directory"⟩,
    ⟨"status", "status", "print the status of the previous command"⟩]

def find? (name : String) : Option HelpEntry :=
  table.find? (·.name = name)

def render (e : HelpEntry) : String :=
  e.name ++ " - " ++ e.description ++ "\nusage: " ++ e.usage ++ "\n"

/-- The columns that a name takes in the listing. -/
def nameWidth : Nat := 10

def renderLine (e : HelpEntry) : String :=
  "    " ++ e.name ++ String.ofList (List.replicate (nameWidth - e.name.length) ' ')
    ++ e.description ++ "\n"

def listing : String :=
  "pipesh builtins:\n" ++ String.join (table.map renderLine)
    ++ "\nAnything else runs as an external program. Use: help <command>\n"

end HelpEntry

end ShellPipeline
