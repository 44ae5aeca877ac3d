import ShellPipeline.Tool.Copy

/-!
# Pages

`more` shows files page by page on a terminal. Since its output is never one here it copies what it
is given: standard input if that is no terminal, and then each file after a banner with its name.
-/

namespace ShellPipeline

namespace Tool

/-- The options of `more`, none of which changes what is copied. -/
def pageOptions : KnownOptions where
  letters := ('n', .always) :: KnownOptions.ofLetters "dflcpsue0123456789"
  names := [("silent", .never, ""), ("logical", .never, ""), ("exit-on-eof", .never, ""),
    ("no-pause", .never, ""), ("print-over", .never, ""), ("clean-print", .never, ""),
    ("squeeze", .never, ""), ("plain", .never, ""), ("lines", .always, "n")]

def banner (path : String) : String :=
  let line := String.ofList (List.replicate 14 ':') ++ "\n"
  line ++ path ++ "\n" ++ line

def isPlace (word : String) : Bool :=
  match word.toList with
  | '+' :: c :: _ => c = '/' || c.isDigit
  | _ => Bool.false

def copyPage (fd : Nat) : Job Unit := do
  let _ ← keepOn (m := Job) (fun _ => do
    match ← (Task.read fd readSize : Task _) with
    | .error _ => return ((), Bool.false)
    | .ok bytes =>
      Job.put bytes
      return ((), !bytes.isEmpty)) roundLimit ()

/-- Copies a file after its banner, if it is asked for. -/
def copyPaged (showsBanner : Bool) (path : String) : Job Unit := do
  match ← Job.openFile path .reading with
  | .error e => Job.report ("more: cannot open " ++ path ++ ": " ++ e.wording ++ "\n")
  | .ok fd =>
    let info ← (Task.call (.describeOpen fd) : Task _)
    if (info.toOption.map FileInfo.kind) = some .directory then
      Job.print ("\n*** " ++ path ++ ": directory ***\n\n")
    else
      if showsBanner then Job.print (banner path)
      copyPage fd
    (Task.close fd : Task _)

/-- Copies files for those who want to look at them. -/
def more : Tool :=
  Job.toTool 1 fun words _ => do
    let (_, words) ← Job.readOptions pageOptions words () fun _ key value => do
      if key = "n" && (readDecimal? value.toList).isNone then
        Job.fail ("argument error: '" ++ value ++ "'")
    let files := words.filter (!isPlace ·)
    let input ← (Task.call (.describeOpen standardInput) : Task _)
    let isTyped := input.toOption.map FileInfo.kind = some .terminal
    if isTyped && files.isEmpty then Job.misuse "bad usage"
    unless isTyped do copyPage standardInput
    for path in files do copyPaged (!isTyped || 1 < files.length) path
    return 0

end Tool

end ShellPipeline
