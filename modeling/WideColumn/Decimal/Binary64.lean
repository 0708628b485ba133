/-!
Double-precision numbers as exact fractions. A finite number is `mantissa * 2 ^ exponent` with a
sign; comparisons and truncation are done on that fraction.
-/
namespace WideColumn

/-- A double-precision number, given by its bits. Two numbers are the same value of this type when
all bits agree, so zeros of different sign differ and a number that is not one equals itself. -/
structure Binary64 where
  bits : UInt64
  deriving DecidableEq, Repr

namespace Binary64

structure Magnitude where
  mantissa : Nat
  exponent : Int
  deriving DecidableEq, Repr

inductive Class
  | nan
  | infinite (negative : Bool)
  | finite (negative : Bool) (magnitude : Magnitude)
  deriving DecidableEq, Repr

/-- The number of fractions, which is the leading bit that a mantissa has in front of its
fraction. -/
def leadingBit : Nat := 0x10000000000000

/-- The bits are a sign, eleven bits of exponent and fifty-two of fraction. -/
def classify (x : Binary64) : Class :=
  let n : Nat := x.bits.toNat
  let negative : Bool := n / leadingBit / 2048 = 1
  let biased : Nat := n / leadingBit % 2048
  let fraction : Nat := n % leadingBit
  if biased = 2047 then (if fraction = 0 then .infinite negative else .nan)
  else if biased = 0 then .finite negative ⟨fraction, -1074⟩
  else .finite negative ⟨leadingBit + fraction, (biased : Int) - 1075⟩

namespace Magnitude

def fraction (m : Magnitude) : Nat × Nat :=
  if m.exponent < 0 then (m.mantissa, Nat.pow 2 m.exponent.natAbs)
  else (m.mantissa * Nat.pow 2 m.exponent.natAbs, 1)

/-- The largest whole number not above the magnitude. -/
def floor (m : Magnitude) : Nat := m.fraction.1 / m.fraction.2

def whole? (m : Magnitude) : Option Nat :=
  if m.fraction.1 % m.fraction.2 = 0 then some m.floor else none

end Magnitude

def whole? (x : Binary64) : Option Int :=
  match x.classify with
  | .finite negative m => m.whole?.map fun n => if negative then -(n : Int) else n
  | _ => none

/-- Equality of numbers: zeros are equal, and what is not a number equals nothing. -/
def numericEq (x y : Binary64) : Bool :=
  match x.classify, y.classify with
  | .nan, _ | _, .nan => false
  | .finite _ ⟨0, _⟩, .finite _ ⟨0, _⟩ => true
  | _, _ => x = y

/-- Whether the number is above zero. -/
def isPositive (x : Binary64) : Bool :=
  match x.classify with
  | .infinite negative => !negative
  | .finite negative m => !negative && m.mantissa != 0
  | .nan => false

def isNonzero (x : Binary64) : Bool :=
  match x.classify with
  | .finite _ m => m.mantissa != 0
  | _ => true

end Binary64
end WideColumn
