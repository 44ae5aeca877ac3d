import ShellPipeline.Machine.Basic

/-!
# Signals between processes

A process that ends gives back what it has open, its children are adopted, and its parent can ask
how it ended. A signal takes its effect at once.
-/

namespace ShellPipeline

namespace Process

def action (p : Process) (s : Signal) : SignalAction :=
  if s.isForced then .standard else (p.actions.lookup s).getD .standard

def hasEnded (p : Process) : Bool :=
  match p.phase with
  | .ended _ => true
  | _ => false

/-- Notes a signal that is caught, which wakes a process that waits or sleeps. -/
def note (p : Process) (s : Signal) (moment : Nat) : Process :=
  let arrived := if p.arrived.contains s then p.arrived else p.arrived ++ [s]
  { p with arrived, phase := .ready, moment := min p.moment moment }

end Process

namespace Machine

/-- Lets a parent know that a child ended, if it wants to know. -/
def tellParent (m : Machine) (parent : Nat) : Machine :=
  m.update parent fun p =>
    if !p.hasEnded && p.action Signal.child = .caught then p.note Signal.child (m.clock + wakeTime)
    else p

/-- Whether anybody will ask about the children of a process. -/
def cares (m : Machine) (parent : Nat) : Bool :=
  parent = shellNumber ||
    (m.process? parent).any fun p => !p.hasEnded && p.action Signal.child != .ignored

def finish (m : Machine) (number : Nat) (exit : Exit) : Machine :=
  match m.process? number with
  | none => m
  | some p =>
    let adopted := m.processes.filterMap fun q =>
      if q.parent != number then some q
      else if q.hasEnded then none
      else some { q with parent := adopter }
    let m := { m with processes := adopted, world := releaseAll m.world p.descriptors }
    if m.cares p.parent then
      (m.update number fun p =>
        { p with phase := .ended exit, descriptors := {}, program := .exit 0 }).tellParent p.parent
    else { m with processes := m.processes.filter (·.number != number) }

def deliver (m : Machine) (number : Nat) (s : Signal) : Machine :=
  match m.process? number with
  | none => m
  | some p =>
    if p.hasEnded || s = 0 then m
    else
      let m := if s = Signal.goOn || s = Signal.kill then
          m.update number fun p => { p with stopped := false }
        else m
      match p.action s with
      | .ignored => m
      | .caught => m.update number fun p => p.note s (m.clock + wakeTime)
      | .standard =>
        match s.effect with
        | .ending => m.finish number (.signaled (Int32.ofNat s))
        | .stopping => m.update number fun p => { p with stopped := true }
        | _ => m

/-- Sends a signal to a process, or to all of them for the number zero. -/
def send (m : Machine) (number : Nat) (s : Signal) : Except Errno Unit × Machine :=
  if Signal.maximum < s then (.error .invalidArgument, m)
  else if number = 0 then
    (.ok (), m.processes.foldl (fun m p => m.deliver p.number s) m)
  else if number = shellNumber || (m.process? number).isSome then (.ok (), m.deliver number s)
  else (.error .noProcess, m)

end Machine

end ShellPipeline
