import ShellPipeline.Run.Event

/-!
# The shell as a process

The shell holds descriptors, stands on a host and notes what it does. Opening a file or a pipe
gives it the lowest descriptors that are free, and closing a descriptor tells the host that the
shell holds the object no longer.
-/

namespace ShellPipeline

/-- A shell on a host whose states are `σ`. -/
structure Shell (σ α η : Type) where
  descriptors : Descriptors α
  host : σ
  events : List (Event α η) := []

namespace Shell

variable {σ α η : Type} [Host σ α η]

omit [Host σ α η] in
def note (s : Shell σ α η) (e : Event α η) : Shell σ α η :=
  { s with events := s.events ++ [e] }

def openInput (s : Shell σ α η) (path : String) : Except PathFault Nat × Shell σ α η :=
  match Host.openInput path s.host with
  | (.error e, host) => (.error e, { s with host }.note (.openInput path (.error e)))
  | (.ok a, host) =>
    let (fd, descriptors) := s.descriptors.add a
    (.ok fd, { s with host, descriptors }.note (.openInput path (.ok fd)))

def openOutput (s : Shell σ α η) (mode : WriteMode) (path : String) :
    Except PathFault Nat × Shell σ α η :=
  match Host.openOutput mode path s.host with
  | (.error e, host) => (.error e, { s with host }.note (.openOutput mode path (.error e)))
  | (.ok a, host) =>
    let (fd, descriptors) := s.descriptors.add a
    (.ok fd, { s with host, descriptors }.note (.openOutput mode path (.ok fd)))

def close (s : Shell σ α η) (fd : Nat) : Shell σ α η :=
  let host := (s.descriptors.get? fd).elim s.host fun a => Host.release a s.host
  { s with host, descriptors := s.descriptors.close fd }.note (.close fd)

def closeAll (s : Shell σ α η) (fds : List Nat) : Shell σ α η :=
  fds.foldl close s

/-- Keeps both ends of a pipe from being passed on to programs. -/
def protectBoth (s : Shell σ α η) (r w : α) : Except Errno Unit × Shell σ α η :=
  match Host.protect r s.host with
  | (.error e, host) => (.error e, { s with host })
  | (.ok (), host) =>
    let (outcome, host) := Host.protect w host
    (outcome, { s with host })

/-- Makes the pipe of the stage at a position. Answers its read end and its write end. -/
def makePipe (s : Shell σ α η) (stage : Nat) : Except Errno (Nat × Nat) × Shell σ α η :=
  match Host.makePipe s.host with
  | (.error e, host) => (.error e, { s with host }.note (.makePipe stage (.error e)))
  | (.ok (r, w), host) =>
    let (readEnd, descriptors) := s.descriptors.add r
    let (writeEnd, descriptors) := descriptors.add w
    let s := { s with host, descriptors }.note (.makePipe stage (.ok (readEnd, writeEnd)))
    match s.protectBoth r w with
    | (.error e, s) => (.error e, s.closeAll [readEnd, writeEnd])
    | (.ok (), s) => (.ok (readEnd, writeEnd), s)

def warn (s : Shell σ α η) (w : Warning) : Shell σ α η :=
  s.note (.warn w)

end Shell

end ShellPipeline
