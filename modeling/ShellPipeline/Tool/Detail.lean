import ShellPipeline.Process.Call
import ShellPipeline.Text.Numeral

/-!
# Details of files

What a long listing tells of a file: its kind, who may do what with it, how large it is and how much
of the disk it takes. Every file belongs to the same user and is as old as the machine.
-/

namespace ShellPipeline

namespace FileInfo

def kindLetter (i : FileInfo) : Char :=
  match i.kind with
  | .regular => '-'
  | .directory => 'd'
  | .link => 'l'
  | .device => 'c'
  | .terminal => 'c'
  | .pipe => 'p'

/-- The letters for three permission bits. A further bit shows in the last letter. -/
def permissionLetters (bits : Nat) (further : Bool) (both alone : Char) : List Char :=
  let runs := bits &&& 1 != 0
  let last := if further then (if runs then both else alone) else if runs then 'x' else '-'
  [if bits &&& 4 != 0 then 'r' else '-', if bits &&& 2 != 0 then 'w' else '-', last]

def modeText (i : FileInfo) : List Char :=
  let m := i.mode
  i.kindLetter :: permissionLetters (m >>> 6) (m &&& 0o4000 != 0) 's' 'S'
    ++ permissionLetters (m >>> 3) (m &&& 0o2000 != 0) 's' 'S'
    ++ permissionLetters m (m &&& 0o1000 != 0) 't' 'T'

/-- The number of bytes in a block of the disk. -/
def diskBlock : Nat := 4096

/-- The number of units of 1024 bytes that a file takes on the disk. -/
def diskSize (i : FileInfo) : Nat :=
  match i.kind with
  | .regular => (i.size + diskBlock - 1) / diskBlock * (diskBlock / 1024)
  | .directory => diskBlock / 1024
  | _ => 0

def shownSize (i : FileInfo) : Nat :=
  if i.kind = .directory then diskBlock else i.size

end FileInfo

/-- Characters behind blanks, so that they are at least so wide. -/
def alignRight (width : Nat) (text : List Char) : List Char :=
  List.replicate (width - text.length) ' ' ++ text

end ShellPipeline
