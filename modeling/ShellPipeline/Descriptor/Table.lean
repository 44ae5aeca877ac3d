/-!
# Descriptor tables

The table of a process gives numbers to the objects that the process has open. A new object gets
the lowest number that is free, and several numbers may stand for one object.
-/

namespace ShellPipeline

/-- The objects that a process has open, by descriptor. -/
structure Descriptors (α : Type) where
  /-- The object of each descriptor, if it is open. -/
  slots : List (Option α) := []
deriving Repr

namespace Descriptors

variable {α : Type}

def get? (d : Descriptors α) (fd : Nat) : Option α :=
  d.slots[fd]?.join

def isOpen (d : Descriptors α) (fd : Nat) : Bool :=
  (d.get? fd).isSome

def firstFree : List (Option α) → Nat
  | [] => 0
  | none :: _ => 0
  | some _ :: rest => firstFree rest + 1

/-- Replaces the slot at a position, after filling up with empty ones. -/
def replace (a : Option α) : List (Option α) → Nat → List (Option α)
  | [], 0 => [a]
  | [], n + 1 => none :: replace a [] n
  | _ :: rest, 0 => a :: rest
  | x :: rest, n + 1 => x :: replace a rest n

theorem getElem?_replace_self (a : Option α) (l : List (Option α)) (n : Nat) :
    (replace a l n)[n]?.join = a := by
  fun_induction replace a l n <;> simp_all

theorem getElem?_replace_ne (a : Option α) (l : List (Option α)) {n m : Nat} (h : m ≠ n) :
    (replace a l n)[m]?.join = l[m]?.join := by
  fun_induction replace a l n generalizing m with
  | case1 => cases m <;> simp_all
  | case2 n ih =>
    cases m with
    | zero => simp
    | succ m => simpa using ih (m := m) (by omega)
  | case3 => cases m <;> simp_all
  | case4 x rest n ih =>
    cases m with
    | zero => simp
    | succ m => simpa using ih (m := m) (by omega)

theorem getElem?_firstFree (l : List (Option α)) : l[firstFree l]?.join = none := by
  fun_induction firstFree l <;> simp_all

def lowestFree (d : Descriptors α) : Nat :=
  firstFree d.slots

@[simp] theorem get?_lowestFree (d : Descriptors α) : d.get? d.lowestFree = none :=
  getElem?_firstFree d.slots

/-- Makes a descriptor stand for an object, whatever it stood for before. -/
def put (d : Descriptors α) (fd : Nat) (a : α) : Descriptors α :=
  ⟨replace (some a) d.slots fd⟩

@[simp] theorem get?_put_self (d : Descriptors α) (fd : Nat) (a : α) :
    (d.put fd a).get? fd = some a :=
  getElem?_replace_self (some a) d.slots fd

theorem get?_put_ne (d : Descriptors α) (a : α) {fd other : Nat} (h : other ≠ fd) :
    (d.put fd a).get? other = d.get? other :=
  getElem?_replace_ne (some a) d.slots h

def close (d : Descriptors α) (fd : Nat) : Descriptors α :=
  ⟨replace none d.slots fd⟩

@[simp] theorem get?_close_self (d : Descriptors α) (fd : Nat) : (d.close fd).get? fd = none :=
  getElem?_replace_self none d.slots fd

theorem get?_close_ne (d : Descriptors α) {fd other : Nat} (h : other ≠ fd) :
    (d.close fd).get? other = d.get? other :=
  getElem?_replace_ne none d.slots h

def add (d : Descriptors α) (a : α) : Nat × Descriptors α :=
  (d.lowestFree, d.put d.lowestFree a)

/-- Makes a descriptor stand for the object of another one. Nothing happens if that one is not
open. -/
def duplicate? (d : Descriptors α) (fd target : Nat) : Option (Descriptors α) :=
  (d.get? fd).map (d.put target)

end Descriptors

end ShellPipeline
