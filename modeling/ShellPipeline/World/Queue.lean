import ShellPipeline.Text.Utf8

/-!
# Queues of bytes

Bytes that are taken in the order in which they were put. What was put last waits apart, so that
putting does not touch what is there already.
-/

namespace ShellPipeline

/-- A queue of bytes. -/
structure Queue where
  front : Bytes := []
  /-- What was put after them, the newest first. -/
  back : List Bytes := []
  size : Nat := 0
deriving DecidableEq, Repr

namespace Queue

def toBytes (q : Queue) : Bytes :=
  if q.back.isEmpty then q.front else q.front ++ q.back.reverse.flatten

def ofBytes (bytes : Bytes) : Queue :=
  { front := bytes, size := bytes.length }

def add (q : Queue) (bytes : Bytes) : Queue :=
  { q with back := bytes :: q.back, size := q.size + bytes.length }

/-- Takes at most so many bytes. What waits apart is not touched if there are enough others. -/
def take (q : Queue) (count : Nat) : Bytes × Queue :=
  let taken := q.front.take count
  if taken.length = count then
    (taken, { q with front := q.front.drop count, size := q.size - count })
  else
    let all := q.toBytes
    (all.take count, { front := all.drop count, size := q.size - count })

@[simp] theorem toBytes_ofBytes (bytes : Bytes) : (ofBytes bytes).toBytes = bytes := rfl

@[simp] theorem toBytes_add (q : Queue) (bytes : Bytes) :
    (q.add bytes).toBytes = q.toBytes ++ bytes := by
  obtain ⟨front, back, size⟩ := q
  cases back <;> simp [add, toBytes]

theorem toBytes_eq (q : Queue) : q.toBytes = q.front ++ q.back.reverse.flatten := by
  unfold toBytes
  split
  · next h => simp [List.isEmpty_iff.mp h]
  · rfl

@[simp] theorem toBytes_take (q : Queue) (count : Nat) :
    (q.take count).2.toBytes = q.toBytes.drop count := by
  simp only [take]
  split
  · next h =>
    have enough : count ≤ q.front.length := by
      rw [List.length_take] at h
      omega
    rw [toBytes_eq, toBytes_eq, List.drop_append_of_le_length enough]
  · simp [toBytes_eq]

@[simp] theorem take_fst (q : Queue) (count : Nat) :
    (q.take count).1 = q.toBytes.take count := by
  simp only [take]
  split
  · next h =>
    have enough : count ≤ q.front.length := by
      rw [List.length_take] at h
      omega
    rw [toBytes_eq, List.take_append_of_le_length enough]
  · rfl

end Queue

end ShellPipeline
