import ShellPipeline.Script.Start
import ShellPipeline.Tool.Characters
import ShellPipeline.Tool.Copy
import ShellPipeline.Tool.Count
import ShellPipeline.Tool.Edit
import ShellPipeline.Tool.Listing
import ShellPipeline.Tool.Order
import ShellPipeline.Tool.Page
import ShellPipeline.Tool.Part
import ShellPipeline.Tool.Sequence
import ShellPipeline.Tool.Surroundings
import ShellPipeline.Tool.Words

/-!
# The tools of a machine

Every tool by its name.
-/

namespace ShellPipeline

namespace Tool

def true : Tool :=
  fun _ _ => pure 0

def false : Tool :=
  fun _ _ => pure 1

def table : List (String × Tool) :=
  [("cat", cat), ("dash", sh), ("echo", echo), ("env", env), ("false", Tool.false),
    ("head", head), ("ls", ls), ("more", more), ("printenv", printenv), ("printf", printf),
    ("pwd", pwd), ("sed", sed), ("seq", seq), ("sh", sh), ("sleep", sleep), ("sort", sort),
    ("tail", tail), ("tee", tee), ("tr", tr), ("true", Tool.true), ("wc", wc), ("yes", yes)]

def names : List String :=
  table.map Prod.fst

end Tool

end ShellPipeline
