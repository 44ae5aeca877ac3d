import ShellPipeline.Script.Utility

/-!
# Utilities for places

The working directory has a path with the links over which it was reached and a path without them.
`umask` says which permissions new files do not get.
-/

namespace ShellPipeline

namespace Script

namespace Act

def findDirectory : Act String := do
  match ← call .directory with
  | .ok path => return path
  | .error e =>
    warn ("getcwd() failed: " ++ e.wording)
    return ""

def setDirectory (path : Option String) (keepsOld : Bool) : Act Unit := do
  let s ← get
  if keepsOld then setVariable "OLDPWD" (s.directory.getD "") { exported := true }
  match path with
  | some path =>
    modify fun s => { s with directory := some path, realDirectory := none }
    setVariable "PWD" path { exported := true }
  | none =>
    let found ← findDirectory
    modify fun s => { s with directory := some found, realDirectory := some found }
    setVariable "PWD" found { exported := true }

def walk (done : List (List Char)) : List String → List (List Char)
  | [] => done
  | step :: rest =>
    if step = "" || step = "." then walk done rest
    else if step = ".." then walk (done.drop 1) rest
    else walk (step.toList :: done) rest

/-- The path to which a path leads from a directory, if that is known. -/
def logicalPath? (directory path : String) : Option String :=
  if path.startsWith "/" then
    let root := if path.startsWith "//" && !path.startsWith "///" then "//" else "/"
    some (root ++ "/".intercalate ((walk [] (path.splitOn "/")).reverse.map String.ofList))
  else if directory = "" then none
  else
    let root := if directory.startsWith "//" then "//" else "/"
    let steps := walk [] (directory.splitOn "/")
    some (root ++ "/".intercalate ((walk steps (path.splitOn "/")).reverse.map String.ofList))

/-- Makes a directory the working directory. Answers whether that was possible. -/
def enterDirectory (path : String) (physical : Bool) : Act Bool := do
  let directory := (← get).directory.getD ""
  let logical := if physical then none else logicalPath? directory path
  match ← call (.enter (logical.getD path)) with
  | .error _ => return false
  | .ok () =>
    setDirectory logical true
    modify fun s => { s with found := s.found.map fun p => { p with isOld := true } }
    return true

def isAnchored (path : String) : Bool :=
  path.startsWith "/" || path = "." || path = ".." || path.startsWith "./"
    || path.startsWith "../"

def isDirectory (path : String) : Act Bool := do
  match ← call (.describe path true) with
  | .ok info => return info.kind = .directory
  | .error _ => return false

/-- Looks for a directory in others, and enters it. Answers whether it was found elsewhere, and
whether it could be entered. -/
def enterAmong (path : String) (physical : Bool) : List String → Act (Bool × Bool)
  | [] => do
    return (false, ← enterDirectory path physical)
  | place :: rest => do
    let full := if place = "" then path else place ++ "/" ++ path
    if ← isDirectory full then return (place != "", ← enterDirectory full physical)
    enterAmong path physical rest

def wantsPhysical (options : List (Char × String)) : Bool :=
  (options.getLast?.map Prod.fst) = some 'P'

def classShift (c : Char) : Option Nat :=
  match c with
  | 'u' => some 64
  | 'g' => some 8
  | 'o' => some 1
  | _ => none

def permissionBit (c : Char) : Option Nat :=
  match c with
  | 'r' => some 4
  | 'w' => some 2
  | 'x' => some 1
  | _ => none

/-- Changes permission bits as a part of a symbolic mode says. -/
def changeBits (bits : Nat) (cs : List Char) : Option Nat := do
  let classes := cs.takeWhile fun c => ['u', 'g', 'o', 'a'].contains c
  let factor := if classes.isEmpty || classes.contains 'a' then 73
    else (classes.filterMap classShift).eraseDups.foldl (· + ·) 0
  match cs.drop classes.length with
  | operator :: permissions =>
    let given ← permissions.mapM permissionBit
    let value := given.eraseDups.foldl (· + ·) 0 * factor
    match operator with
    | '+' => some (bits ||| value)
    | '-' => some (bits &&& (0o777 ^^^ value))
    | '=' => some ((bits &&& (0o777 ^^^ (7 * factor))) ||| value)
    | _ => none
  | [] => none

def symbolicBits (bits : Nat) (mode : String) : Option Nat :=
  (mode.splitOn ",").foldlM (fun bits part => changeBits bits part.toList) bits

def permissionLetters (bits : Nat) : String :=
  String.ofList ([('r', 4), ('w', 2), ('x', 1)].filterMap fun (c, bit) =>
    if bits &&& bit != 0 then some c else none)

def fourOctal (n : Nat) : String :=
  String.ofList [digitChar (n / 512 % 8), digitChar (n / 64 % 8), digitChar (n / 8 % 8),
    digitChar (n % 8)]

end Act

namespace Utility

def cd : Utility :=
  .ofWords fun words => do
    let (options, words) ← Act.options "LP" words
    let physical := Act.wantsPhysical options
    let s ← get
    let target := match words with
      | [] => s.value? "HOME"
      | "-" :: _ => s.value? "OLDPWD"
      | word :: _ => some word
    let target := target.getD ""
    let prints := words.head? = some "-"
    let (elsewhere, entered) ← if Act.isAnchored target then do
        pure (false, ← Act.enterDirectory target physical)
      else do
        let path := if target = "" then "." else target
        Act.enterAmong path physical (((s.value? "CDPATH").getD "").splitOn ":")
    unless entered do Act.fail ("can't cd to " ++ target)
    if prints || elsewhere then Act.print ((← get).directory.getD "" ++ "\n")
    return 0

def pwd : Utility :=
  .ofWords fun words => do
    let (options, _) ← Act.options "LP" words
    let s ← get
    if Act.wantsPhysical options then
      if s.realDirectory.isNone then
        let found ← Act.findDirectory
        modify fun s => { s with realDirectory := some found }
      Act.print ((← get).realDirectory.getD "" ++ "\n")
    else Act.print (s.directory.getD "" ++ "\n")
    return 0

/-- Writes or sets the permissions that new files do not get. -/
def umask : Utility :=
  .ofWords fun words => do
    let (options, words) ← Act.options "S" words
    let mask ← Act.call (.mask none)
    match words with
    | [] =>
      if options.isEmpty then Act.print (Act.fourOctal mask ++ "\n")
      else
        let bits := 0o777 ^^^ mask
        Act.print ("u=" ++ Act.permissionLetters (bits / 64 % 8) ++ ",g="
          ++ Act.permissionLetters (bits / 8 % 8) ++ ",o=" ++ Act.permissionLetters (bits % 8)
          ++ "\n")
    | word :: _ =>
      if word.toList.head?.any Char.isDigit then
        let digits := word.toList.map fun c => (c.toNat - 48, '0' ≤ c && c ≤ '7')
        unless digits.all Prod.snd do Act.fail ("Illegal number: " ++ word)
        let bits := digits.foldl (fun n d => n * 8 + d.1) 0
        let _ ← Act.call (.mask (some (bits % 512)))
      else
        match Act.symbolicBits (0o777 ^^^ mask) word with
        | some bits =>
          let _ ← Act.call (.mask (some (0o777 ^^^ bits)))
        | none => Act.fail ("Illegal mode: " ++ word)
    return 0

end Utility

end Script

end ShellPipeline
