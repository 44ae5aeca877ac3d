import ShellPipeline.System.Errno
import ShellPipeline.Text.Utf8

/-!
# Writing all of a text

One write may take only a part of what it is given. Writing goes on until everything is taken or
the system refuses; interrupted writes are repeated, and a write that takes nothing is a failure
of the device.
-/

namespace ShellPipeline

/-- What the system answers to one write. -/
inductive WriteAnswer where
  | took (count : Nat)
  | failed (cause : Errno)
deriving DecidableEq, Repr

/-- What became of a write. -/
structure Written where
  accepted : Bytes
  /-- Whether that was everything, or else why not. -/
  result : Except Errno Unit
  /-- The answers that were not asked for. -/
  unused : List WriteAnswer

/-- Writes bytes against the answers of the system. What is left when there are no more answers is
taken at once. -/
def writeAll (bytes : Bytes) (answers : List WriteAnswer) : Written :=
  if bytes.isEmpty then ⟨[], .ok (), answers⟩
  else match answers with
    | [] => ⟨bytes, .ok (), []⟩
    | .took 0 :: rest => ⟨[], .error .inputOutput, rest⟩
    | .took (n + 1) :: rest =>
      let w := writeAll (bytes.drop (n + 1)) rest
      { w with accepted := bytes.take (n + 1) ++ w.accepted }
    | .failed cause :: rest =>
      if cause = .interrupted then writeAll bytes rest else ⟨[], .error cause, rest⟩
termination_by structural answers

end ShellPipeline
