import WideColumn.Decimal.Binary64
import WideColumn.Text.Integer

/-!
The shortest decimal that reads back as a given double-precision number, and its layout.

The numbers that round to a finite double form an interval around it, whose ends belong to it when
the mantissa is even. For 1, 2, … 17 digits the two neighbours of the number on the grid of that
many digits are tried; the first grid with a neighbour inside the interval wins.
-/
namespace WideColumn.Decimal

open Binary64 (Magnitude)

/-- A decimal: the digits as one number, and the power of ten of its last digit. -/
structure Scaled where
  digits : Nat
  exponent : Int
  deriving DecidableEq, Repr

/-- `a * 10 ^ e ≤ b`, on whole numbers. -/
private def scaledLe (a : Nat) (e : Int) (b : Nat) : Bool :=
  if e < 0 then a ≤ b * Nat.pow 10 e.natAbs else a * Nat.pow 10 e.natAbs ≤ b

private def leScaled (b : Nat) (a : Nat) (e : Int) : Bool :=
  if e < 0 then b * Nat.pow 10 e.natAbs ≤ a else b ≤ a * Nat.pow 10 e.natAbs

/-- The interval of numbers that round to a magnitude, in units of `1 / scale`. -/
structure Interval where
  low : Nat
  value : Nat
  high : Nat
  scale : Nat
  closed : Bool

/-- The interval around a magnitude. The gap below a power of two is half the gap above it, but
for the smallest exponent. -/
def Interval.around (m : Magnitude) : Interval :=
  let (num, den) := m.fraction
  let unit := if m.exponent < 0 then 1 else Nat.pow 2 m.exponent.natAbs
  let below := if m.mantissa = Binary64.leadingBit ∧ -1074 < m.exponent then unit else 2 * unit
  ⟨4 * num - below, 4 * num, 4 * num + 2 * unit, 4 * den, m.mantissa % 2 = 0⟩

def Interval.holds (i : Interval) (a : Nat) (e : Int) : Bool :=
  let inside := scaledLe (a * i.scale) e i.high && leScaled i.low (a * i.scale) e
  let onEnd :=
    (scaledLe (a * i.scale) e i.low && leScaled i.low (a * i.scale) e) ||
      (scaledLe (a * i.scale) e i.high && leScaled i.high (a * i.scale) e)
  inside && (i.closed || !onEnd)

/-- The greatest multiple of `10 ^ e` not above the value, in units of `10 ^ e`. -/
def Interval.below (i : Interval) (e : Int) : Nat :=
  if e < 0 then i.value * Nat.pow 10 e.natAbs / i.scale
  else i.value / (i.scale * Nat.pow 10 e.natAbs)

/-- Whether the upper one of two neighbouring multiples of `10 ^ e` is nearer to the value, a tie
going to the even one. -/
def Interval.upperNearer (i : Interval) (a : Nat) (e : Int) : Bool :=
  let middle := (2 * a + 1) * i.scale
  let twice := 2 * i.value
  if leScaled twice middle e then scaledLe middle e twice && a % 2 = 1 else true

def leadingExponent (num den : Nat) : Int :=
  if den ≤ num then (Nat.toDigits 10 (num / den)).length - 1
  else (List.range 330).foldr
    (fun (j : Nat) (later : Int) =>
      if den ≤ num * Nat.pow 10 (j + 1) then -((j : Int) + 1) else later) (-330)

/-- The decimal with the fewest digits that reads back as a positive magnitude. -/
def shortest (m : Magnitude) : Scaled :=
  let i := Interval.around m
  let lead := leadingExponent m.fraction.1 m.fraction.2
  let onGrid (count : Nat) : Option Scaled :=
    let e := lead + 1 - count
    let a := i.below e
    match i.holds a e, i.holds (a + 1) e with
    | true, true => some ⟨if i.upperNearer a e then a + 1 else a, e⟩
    | true, false => some ⟨a, e⟩
    | false, true => some ⟨a + 1, e⟩
    | false, false => none
  ((List.range 17).findSome? fun n => onGrid (n + 1)).getD ⟨m.floor, 0⟩

/-- How a decimal is laid out. A number is written positionally when the power of ten of its first
digit lies from `leastPositional` to `mostPositional`, and otherwise with an exponent of at least
two digits. -/
structure Layout where
  leastPositional : Int
  mostPositional : Int
  nan : String
  infinity : String

def stripZeros (digits : List Char) : List Char :=
  match (Text.dropEndWhile (· = '0') digits) with
  | [] => ['0']
  | some' => some'

def Layout.place (layout : Layout) (digits : List Char) (lead : Int) : List Char :=
  if layout.leastPositional ≤ lead ∧ lead ≤ layout.mostPositional then
    if lead < 0 then '0' :: '.' :: List.replicate (lead.natAbs - 1) '0' ++ digits
    else
      let whole := digits.take (lead.natAbs + 1)
      let whole := whole ++ List.replicate (lead.natAbs + 1 - whole.length) '0'
      let part := digits.drop (lead.natAbs + 1)
      whole ++ '.' :: (if part.isEmpty then ['0'] else part)
  else
    let exponent := Text.natural lead.natAbs
    let exponent := if exponent.length < 2 then '0' :: exponent else exponent
    digits.take 1 ++ (if digits.length > 1 then '.' :: digits.drop 1 else []) ++
      'e' :: (if lead < 0 then '-' else '+') :: exponent

def Layout.render (layout : Layout) (x : Binary64) : List Char :=
  match x.classify with
  | .nan => layout.nan.toList
  | .infinite negative => (if negative then ['-'] else []) ++ layout.infinity.toList
  | .finite negative m =>
    let sign := if negative then ['-'] else []
    if m.mantissa = 0 then sign ++ ['0', '.', '0']
    else
      let d := shortest m
      let digits := Text.natural d.digits
      sign ++ layout.place (stripZeros digits) (d.exponent + (digits.length - 1))

end WideColumn.Decimal
