import ShellPipeline.System.Errno.Table
import ShellPipeline.Text.Numeral

/-!
# System errors

Every system call that fails reports a number. Numbers outside the table are kept and have
wordings of their own.
-/

namespace ShellPipeline

/-- A system error, known by its number. -/
structure Errno where
  number : Int
deriving DecidableEq, Repr

namespace Errno

def notPermitted : Errno := ⟨1⟩

def noEntry : Errno := ⟨2⟩

def noProcess : Errno := ⟨3⟩

def interrupted : Errno := ⟨4⟩

def inputOutput : Errno := ⟨5⟩

def argumentsTooLong : Errno := ⟨7⟩

def execFormat : Errno := ⟨8⟩

def badDescriptor : Errno := ⟨9⟩

def noChild : Errno := ⟨10⟩

def tryAgain : Errno := ⟨11⟩

def accessDenied : Errno := ⟨13⟩

def alreadyExists : Errno := ⟨17⟩

def notDirectory : Errno := ⟨20⟩

def isDirectory : Errno := ⟨21⟩

def invalidArgument : Errno := ⟨22⟩

def tooManyOpenFiles : Errno := ⟨24⟩

def textFileBusy : Errno := ⟨26⟩

def noSpace : Errno := ⟨28⟩

/-- The position in a pipe or a terminal cannot be moved. -/
def cannotSeek : Errno := ⟨29⟩

def brokenPipe : Errno := ⟨32⟩

/-- A path or one of its names is too long. -/
def nameTooLong : Errno := ⟨36⟩

def notEmpty : Errno := ⟨39⟩

def tooManyLinks : Errno := ⟨40⟩

def entry? (e : Errno) : Option Entry :=
  entries.find? fun x => (x.number : Int) = e.number

def wording (e : Errno) : String :=
  if e.number = 0 then "Success"
  else e.entry?.elim ("Unknown error " ++ decimalInt e.number) Entry.wording

/-- The wording of an error for files, with its number. -/
def fileMessage (e : Errno) : String :=
  e.wording ++ " (os error " ++ decimalInt e.number ++ ")"

def processWording (e : Errno) : String :=
  e.entry?.elim "Unknown errno" Entry.processWording

/-- The wording of an error for processes, after its symbol. -/
def processMessage (e : Errno) : String :=
  e.entry?.elim "UnknownErrno" Entry.symbol ++ ": " ++ e.processWording

end Errno

/-- Why a path cannot be used. -/
inductive PathFault where
  | errno (e : Errno)
  /-- It holds a NUL, which ends a path, so the system is not asked. -/
  | nulInPath
deriving DecidableEq, Repr

def PathFault.message : PathFault → String
  | errno e => e.fileMessage
  | nulInPath => "file name contained an unexpected NUL byte"

end ShellPipeline
