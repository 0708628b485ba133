/-!
Sets of code points, written as increasing lists of closed ranges.
-/
namespace WideColumn.Text

/-- The first code point of the range that holds `n`. The search stops at the first range that
lies above `n`, so the ranges have to increase. -/
def blockStart? : List (Nat × Nat) → Nat → Option Nat
  | [], _ => none
  | (lo, hi) :: rest, n =>
    if n < lo then none else if n ≤ hi then some lo else blockStart? rest n

def covers (ranges : List (Nat × Nat)) (n : Nat) : Bool := (blockStart? ranges n).isSome

end WideColumn.Text
