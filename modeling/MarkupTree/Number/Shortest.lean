import MarkupTree.Number.Binary

/-! The fewest decimal digits that read back as a number. The reals that round to the number form
an interval; for one digit, two digits and so on, the two neighbours of the number among the
decimals with so many digits are tried, and the first that lies in the interval is the answer. -/
namespace MarkupTree

/-- Which of two equally near decimals is taken. -/
inductive Tie where
  | up
  | even
  deriving DecidableEq, Repr

/-- The reals that round to a number: `low`, `value` and `high` over one denominator. The ends
belong to the interval if the significand is even. -/
structure RoundingInterval where
  low : Nat
  value : Nat
  high : Nat
  denominator : Nat
  closed : Bool

def Magnitude.interval (x : Magnitude) : RoundingInterval :=
  let exponent := x.exponent - 2
  let scale := Nat.pow 2 exponent.toNat
  let below := if x.narrowBelow then 1 else 2
  { low := (4 * x.significand - below) * scale
    value := 4 * x.significand * scale
    high := (4 * x.significand + 2) * scale
    denominator := Nat.pow 2 (-exponent).toNat
    closed := x.significand % 2 == 0 }

structure Decimal where
  digits : Nat
  exponent : Int
  deriving DecidableEq, Repr

namespace RoundingInterval

/-- The interval in units of `10 ^ exponent`. -/
def inUnits (interval : RoundingInterval) (exponent : Int) : RoundingInterval :=
  let up := Nat.pow 10 (-exponent).toNat
  { interval with
    low := interval.low * up
    value := interval.value * up
    high := interval.high * up
    denominator := interval.denominator * Nat.pow 10 exponent.toNat }

def contains (interval : RoundingInterval) (n : Nat) : Bool :=
  let scaled := n * interval.denominator
  if interval.closed then interval.low ≤ scaled && scaled ≤ interval.high
  else interval.low < scaled && scaled < interval.high

/-- The whole number of the interval that is nearest to the value, looked for next to it. -/
def nearest? (tie : Tie) (interval : RoundingInterval) : Option Nat :=
  let below := interval.value / interval.denominator
  match interval.contains below, interval.contains (below + 1) with
  | false, false => none
  | true, false => some below
  | false, true => some (below + 1)
  | true, true =>
    let twice := 2 * (interval.value % interval.denominator)
    if twice < interval.denominator then some below
    else if interval.denominator < twice then some (below + 1)
    else
      match tie with
      | .up => some (below + 1)
      | .even => some (below + below % 2)

/-- The greatest power of ten that is at most the value. -/
def decimalExponent (interval : RoundingInterval) : Int :=
  let length (n : Nat) : Int := (Nat.toDigits 10 n).length
  let guess := length interval.value - length interval.denominator
  let reached :=
    interval.denominator * Nat.pow 10 guess.toNat ≤ interval.value * Nat.pow 10 (-guess).toNat
  if reached then guess else guess - 1

/-- No number of 64 bits needs more digits. -/
def mostDigits : Nat := 17

/-- The shortest decimal of the interval, if so many digits reach it. -/
def shortest? (tie : Tie) (interval : RoundingInterval) : Option Decimal :=
  let top := interval.decimalExponent
  (List.range mostDigits).findSome? fun (more : Nat) =>
    let exponent := top - more
    ((interval.inUnits exponent).nearest? tie).map fun digits => ⟨digits, exponent⟩

end RoundingInterval

def Decimal.trim (x : Decimal) : Decimal :=
  if x.digits = 0 then ⟨0, 0⟩
  else if x.digits % 10 = 0 then Decimal.trim ⟨x.digits / 10, x.exponent + 1⟩
  else x
termination_by x.digits
decreasing_by omega

def Magnitude.exact (x : Magnitude) : Decimal :=
  if 0 ≤ x.exponent then ⟨x.significand * Nat.pow 2 x.exponent.toNat, 0⟩
  else ⟨x.significand * Nat.pow 5 (-x.exponent).toNat, x.exponent⟩

/-- The fewest digits that read back as the number. All of its digits stand in for them should a
format be too fine for the search. -/
def Magnitude.shortest (tie : Tie) (x : Magnitude) : Decimal :=
  if x.significand = 0 then ⟨0, 0⟩ else ((x.interval.shortest? tie).getD x.exact).trim

end MarkupTree
