import ShellPipeline.Pipeline.Stage

/-!
# Tokens

A line is a sequence of words, redirections and pipes. Pipes separate the commands of a line, so
what a command holds between two pipes is a sequence of items, which are words and redirections.
-/

namespace ShellPipeline

/-- A redirection of the input or of the output. -/
inductive Redirect where
  | input
  | output (mode : WriteMode)
deriving DecidableEq, Repr

def Redirect.symbol : Redirect → String
  | input => "<"
  | output .truncate => ">"
  | output .append => ">>"

/-- A part of one command. -/
inductive Item where
  | word (text : String)
  /-- A redirection, whose file is named by the word after it. -/
  | redirect (r : Redirect)
deriving DecidableEq, Repr

/-- A part of a line. -/
inductive Token where
  | item (i : Item)
  | pipe
deriving DecidableEq, Repr

/-- The commands between the pipes. There is one more of them than there are pipes. -/
def segments : List Token → List (List Item)
  | [] => [[]]
  | .pipe :: rest => [] :: segments rest
  | .item i :: rest => (segments rest).modifyHead (i :: ·)

theorem segments_ne_nil (l : List Token) : segments l ≠ [] := by
  induction l with
  | nil => simp [segments]
  | cons t rest ih =>
    cases t with
    | pipe => simp [segments]
    | item i => simpa [segments] using ih

end ShellPipeline
