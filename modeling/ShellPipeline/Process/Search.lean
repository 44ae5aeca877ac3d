import ShellPipeline.System.Errno

/-!
# Search paths

A search path names the directories in which programs are looked for, with colons between them. A
directory without a name is the working directory. A name with a slash is a path already.
-/

namespace ShellPipeline

def programPaths (searchPath name : String) : List String :=
  (searchPath.splitOn ":").map fun place => if place = "" then name else place ++ "/" ++ name

def isPath (name : String) : Bool :=
  name.toList.contains '/'

/-- Whether a fault only says that there is no such file. -/
def isAbsence (e : Errno) : Bool :=
  e = .noEntry || e = .notDirectory

end ShellPipeline
