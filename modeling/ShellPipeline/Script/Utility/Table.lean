import ShellPipeline.Script.Utility.Condition
import ShellPipeline.Script.Utility.Control
import ShellPipeline.Script.Utility.Output
import ShellPipeline.Script.Utility.Place
import ShellPipeline.Script.Utility.Search
import ShellPipeline.Script.Utility.Variable

/-!
# The utilities of an interpreter

Every utility by its name.
-/

namespace ShellPipeline

namespace Script

namespace Utility

def specials : List (String × Utility) :=
  [(".", dot), (":", colon), ("break", leaving), ("continue", continuing), ("eval", eval),
    ("exec", exec), ("exit", exit), ("export", exporting), ("local", concealing),
    ("readonly", keeping), ("return", leavingFunction), ("set", set), ("shift", shift),
    ("times", times), ("trap", trap), ("unset", unset)]

def plain : List (String × Utility) :=
  [("[", bracket), ("alias", makeAliases), ("bg", resume), ("cd", cd), ("chdir", cd),
    ("command", command), ("echo", echo), ("false", nothing 1), ("fg", resume),
    ("getopts", getopts), ("hash", hash), ("jobs", jobs), ("kill", kill), ("printf", printf),
    ("pwd", pwd), ("read", read), ("test", test), ("true", nothing 0), ("type", type),
    ("ulimit", ulimit), ("umask", umask), ("unalias", unalias), ("wait", wait)]

def named? (name : String) : Option Utility :=
  (specials ++ plain).lookup name

theorem specials_keys : specials.map Prod.fst = specialCommands := rfl

theorem plain_keys : plain.map Prod.fst = plainCommands := rfl

end Utility

end Script

end ShellPipeline
