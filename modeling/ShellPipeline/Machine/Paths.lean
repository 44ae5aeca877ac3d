import ShellPipeline.Machine.Basic
import ShellPipeline.Text.Locale

/-!
# Calls about paths

What becomes of a tree when a process renames what is in it, and what it can learn of links and
directories. Replacing a name does not touch an object that is open.
-/

namespace ShellPipeline

namespace Tree

/-- The directory that holds the last name of a path, and that name, if it is no dots. -/
def lastName (t : Tree) (dir : Nat) (path : String) (whenDots : Errno) :
    Except Errno (Nat × String × Bool) :=
  match t.locateParent dir path with
  | .error e => .error e
  | .ok (_, none, _) => .error whenDots
  | .ok (above, some name, closed) =>
    if isDots name then .error whenDots else .ok (above, name, closed)

def entry? (t : Tree) (dir : Nat) (name : String) : Option Nat :=
  (t.directory? dir).bind fun d => d.entries.lookup name

/-- Whether names can be added to a directory and taken out of it. -/
def canChange (t : Tree) (dir : Nat) : Bool :=
  (t.directory? dir).any fun d => permits d.mode writeBit

/-- Whether a directory is the other one or lies below it. -/
def isBelow (t : Tree) (top : Nat) : Nat → Nat → Bool
  | 0, _ => false
  | depth + 1, id =>
    id = top || (id != 0 && (t.directory? id).any fun d => t.isBelow top depth d.parent)

def setParent (t : Tree) (id above : Nat) : Tree :=
  match t.directory? id with
  | none => t
  | some d => t.setNode id (.directory { d with parent := above })

/-- Moves an object to another name, of which the present object gives way. -/
def rename (t : Tree) (dir : Nat) (path target : String) : Except Errno Tree := do
  let (above, name, _) ← t.lastName dir path .invalidArgument
  let (newAbove, newName, closed) ← t.lastName dir target .invalidArgument
  match t.entry? above name with
  | none => .error .noEntry
  | some id =>
    let moves := (t.directory? id).isSome
    if closed && !moves then .error .notDirectory
    else if !t.canChange above || !t.canChange newAbove then .error .accessDenied
    else if moves && t.isBelow id t.nodes.size newAbove then .error .invalidArgument
    else
      match t.entry? newAbove newName with
      | none => ((t.dropEntry above name).setParent id newAbove).addEntry newAbove newName id
      | some old =>
        if old = id then .ok t
        else match t.directory? old with
          | some d =>
            if !moves then .error .isDirectory
            else if !d.entries.isEmpty then .error .notEmpty
            else ((t.dropEntry above name).dropEntry newAbove newName |>.setParent id newAbove)
              |>.addEntry newAbove newName id
          | none =>
            if moves then .error .notDirectory
            else ((t.dropEntry above name).dropEntry newAbove newName).addEntry newAbove newName id

def readLink (t : Tree) (dir : Nat) (path : String) : Except Errno String := do
  match t.node? (← t.findEntry dir path) with
  | some (.link target) => .ok target
  | _ => .error .invalidArgument

def list (t : Tree) (dir : Nat) (path : String) : Except Errno (List String) := do
  match t.directory? (← t.find dir path) with
  | none => .error .notDirectory
  | some d => if permits d.mode readBit then .ok (d.entries.map Prod.fst) else .error .accessDenied

end Tree

namespace Machine

def onTree (m : Machine) (change : Tree → Except Errno Tree) : Except Errno Unit × Machine :=
  match change m.world.tree with
  | .error e => (.error e, m)
  | .ok tree => (.ok (), { m with world := { m.world with tree } })

end Machine

end ShellPipeline
