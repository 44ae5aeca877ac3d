import ShellPipeline.Text.Numeral

/-!
# Signals

Signals are numbered from one. Most of them end a process that does not care for them, some stop
it or let it go on, and a few do nothing.
-/

namespace ShellPipeline

abbrev Signal := Nat

namespace Signal

def interrupt : Signal := 2

def kill : Signal := 9

def brokenPipe : Signal := 13

def terminate : Signal := 15

def child : Signal := 17

def goOn : Signal := 18

def stop : Signal := 19

def maximum : Nat := 64

/-- The highest number of the signals that have a meaning of their own. -/
def lastNamed : Nat := 31

/-- The lowest and the highest number of the signals that programs can use freely. -/
def freeRange : Nat × Nat := (34, 64)

def isForced (s : Signal) : Bool :=
  s = kill || s = stop

/-- What a signal does to a process that does not care for it. -/
inductive Effect where
  | ending
  | stopping
  | goingOn
  | nothing
deriving DecidableEq, Repr

/-- What a signal does to a process that does not care for it. -/
def effect (s : Signal) : Effect :=
  if s = goOn then .goingOn
  else if s = child || s = 23 || s = 28 then .nothing
  else if 19 ≤ s && s ≤ 22 then .stopping
  else .ending

def named : List (Signal × String × String) :=
  [(1, "HUP", "Hangup"), (2, "INT", "Interrupt"), (3, "QUIT", "Quit"),
    (4, "ILL", "Illegal instruction"), (5, "TRAP", "Trace/breakpoint trap"),
    (6, "ABRT", "Aborted"), (7, "BUS", "Bus error"), (8, "FPE", "Floating point exception"),
    (9, "KILL", "Killed"), (10, "USR1", "User defined signal 1"),
    (11, "SEGV", "Segmentation fault"), (12, "USR2", "User defined signal 2"),
    (13, "PIPE", "Broken pipe"), (14, "ALRM", "Alarm clock"), (15, "TERM", "Terminated"),
    (16, "STKFLT", "Stack fault"), (17, "CHLD", "Child exited"), (18, "CONT", "Continued"),
    (19, "STOP", "Stopped (signal)"), (20, "TSTP", "Stopped"),
    (21, "TTIN", "Stopped (tty input)"), (22, "TTOU", "Stopped (tty output)"),
    (23, "URG", "Urgent I/O condition"), (24, "XCPU", "CPU time limit exceeded"),
    (25, "XFSZ", "File size limit exceeded"), (26, "VTALRM", "Virtual timer expired"),
    (27, "PROF", "Profiling timer expired"), (28, "WINCH", "Window changed"),
    (29, "IO", "I/O possible"), (30, "PWR", "Power failure"), (31, "SYS", "Bad system call")]

def wording (s : Signal) : String :=
  match named.lookup s with
  | some (_, text) => text
  | none =>
    if freeRange.1 ≤ s && s ≤ freeRange.2 then
      "Real-time signal " ++ decimal (s - freeRange.1)
    else "Unknown signal " ++ decimal s

end Signal

end ShellPipeline
