import WideColumn.Value.Mismatch
import WideColumn.Value.Number

/-!
Bounded queues. A queue is the list of its items, oldest first; its bound is a configured value, and
a bound that is not above zero is none.
-/
namespace WideColumn.Stream

/-- A call that comes back with a result, or waits for ever. -/
inductive Call (α : Type)
  | returned (result : α)
  | blocked
  deriving DecidableEq, Repr

namespace Queue

variable {α : Type}

def bound (depth : Value) : Except Mismatch (Option Nat) :=
  if depth.isNumber then .ok ((depth.ceiling?.filter (0 < ·)).map Int.toNat)
  else .error (.notOrdered ">" depth.typeName "int")

/-- Adds an item, unless the queue is full. -/
def push? (bound : Option Nat) (items : List α) (item : α) : Option (List α) :=
  if bound.any (· ≤ items.length) then none else some (items ++ [item])

/-- Whether a number of items has reached a configured one. An unset one is never reached, and one
below zero always is. -/
def reaches (size : Value) (items : List α) : Except Mismatch Bool :=
  if !size.isSet then .ok false
  else if size.isNumber then
    .ok (size.isNegative || size.ceiling?.any (· ≤ (items.length : Int)))
  else .error (.notOrdered ">=" "int" size.typeName)

theorem push?_eq_some {bound : Option Nat} {items after : List α} {item : α}
    (h : push? bound items item = some after) : after = items ++ [item] := by
  unfold push? at h
  split at h
  · simp at h
  · exact (Option.some.inj h).symm

end Queue
end WideColumn.Stream
