/-! Binary floating-point numbers by their bit patterns. A word of a format holds, from the top, the
sign, the biased exponent and the fraction; a zero exponent drops the leading one of the
significand, and an exponent of all ones stands for the infinities and for what is not a number. -/
namespace MarkupTree

structure BinaryFormat where
  fractionBits : Nat
  exponentBits : Nat

namespace BinaryFormat

def single : BinaryFormat := ⟨23, 8⟩
def double : BinaryFormat := ⟨52, 11⟩

/-- The weight of the last bit of the smallest numbers, as a power of two. -/
def leastExponent (format : BinaryFormat) : Int :=
  2 - (Nat.pow 2 (format.exponentBits - 1) : Nat) - format.fractionBits

/-- The word of positive infinity: exponent all ones, fraction zero. -/
def infinityWord (format : BinaryFormat) : Nat :=
  (Nat.pow 2 format.exponentBits - 1) * Nat.pow 2 format.fractionBits

def signWord (format : BinaryFormat) : Nat :=
  Nat.pow 2 (format.exponentBits + format.fractionBits)

end BinaryFormat

/-- A number `significand * 2 ^ exponent` of a format. The numbers below are closer than those
above where `narrowBelow` holds: at the powers of two that are not the smallest. -/
structure Magnitude where
  significand : Nat
  exponent : Int
  narrowBelow : Bool
  deriving DecidableEq, Repr

inductive BinaryValue where
  | notANumber
  | infinite (negative : Bool)
  | finite (negative : Bool) (magnitude : Magnitude)
  deriving DecidableEq, Repr

namespace BinaryFormat

def magnitude (format : BinaryFormat) (word : Nat) : Magnitude :=
  let fraction := word % Nat.pow 2 format.fractionBits
  let biased := word / Nat.pow 2 format.fractionBits % Nat.pow 2 format.exponentBits
  if biased = 0 then ⟨fraction, format.leastExponent, false⟩
  else ⟨Nat.pow 2 format.fractionBits + fraction, format.leastExponent + (biased - 1),
    fraction = 0 && 1 < biased⟩

def decode (format : BinaryFormat) (word : Nat) : BinaryValue :=
  let negative := format.signWord ≤ word
  let unsigned := word % format.signWord
  if format.infinityWord < unsigned then .notANumber
  else if unsigned = format.infinityWord then .infinite negative
  else .finite negative (format.magnitude unsigned)

/-- The quotient rounded to the nearest whole number, a half to the even neighbour. -/
def roundQuotient (numerator denominator : Nat) : Nat :=
  let quotient := numerator / denominator
  let twice := 2 * (numerator % denominator)
  if twice < denominator then quotient
  else if denominator < twice then quotient + 1
  else quotient + quotient % 2

/-- The greatest power of two that is at most a positive quotient. -/
def binaryExponent (numerator denominator : Nat) : Int :=
  let guess : Int := (numerator.log2 : Int) - denominator.log2
  let reached :=
    if 0 ≤ guess then denominator * Nat.pow 2 guess.toNat ≤ numerator
    else denominator ≤ numerator * Nat.pow 2 (-guess).toNat
  if reached then guess else guess - 1

/-- The word of the positive number of the format that is nearest to a quotient, of two the one
with the even significand, and infinity where the quotient lies beyond the largest number. -/
def nearestWord (format : BinaryFormat) (numerator denominator : Nat) : Nat :=
  if numerator = 0 then 0
  else
    let exponent := max format.leastExponent
      (binaryExponent numerator denominator - format.fractionBits)
    let significand :=
      if 0 ≤ exponent then roundQuotient numerator (denominator * Nat.pow 2 exponent.toNat)
      else roundQuotient (numerator * Nat.pow 2 (-exponent).toNat) denominator
    min format.infinityWord
      ((exponent - format.leastExponent).toNat * Nat.pow 2 format.fractionBits + significand)

/-- The word nearest to `digits * 10 ^ exponent`. Exponents far outside the format are not
multiplied out. -/
def ofDecimal (format : BinaryFormat) (digits : Nat) (exponent : Int) : Nat :=
  let reach : Int := (Nat.pow 2 format.exponentBits : Nat)
  let length : Int := (Nat.toDigits 10 digits).length
  if digits = 0 || exponent + length < -reach then 0
  else if reach < exponent + length then format.infinityWord
  else if 0 ≤ exponent then format.nearestWord (digits * Nat.pow 10 exponent.toNat) 1
  else format.nearestWord digits (Nat.pow 10 (-exponent).toNat)

end BinaryFormat

structure Binary64 where
  bits : UInt64
  deriving DecidableEq, Repr, Inhabited

structure Binary32 where
  bits : UInt32
  deriving DecidableEq, Repr, Inhabited

namespace Binary64

def signBit : UInt64 := 0x8000000000000000
def magnitudeBits (x : Binary64) : UInt64 := x.bits &&& 0x7fffffffffffffff
def isNaN (x : Binary64) : Bool := 0x7ff0000000000000 < x.magnitudeBits
def isZero (x : Binary64) : Bool := x.magnitudeBits == 0
def isFinite (x : Binary64) : Bool := x.magnitudeBits < 0x7ff0000000000000

def negate (x : Binary64) : Binary64 := ⟨x.bits ^^^ signBit⟩
def value (x : Binary64) : BinaryValue := BinaryFormat.double.decode x.bits.toNat

def ofDecimal (digits : Nat) (exponent : Int) : Binary64 :=
  ⟨UInt64.ofNat (BinaryFormat.double.ofDecimal digits exponent)⟩

/-- Equality of numbers: what is not a number differs from itself, and the zeros are equal. -/
def equal (x y : Binary64) : Bool :=
  !x.isNaN && !y.isNaN && (x.bits == y.bits || (x.isZero && y.isZero))

instance : BEq Binary64 := ⟨equal⟩

end Binary64

namespace Binary32

def signBit : UInt32 := 0x80000000
def negate (x : Binary32) : Binary32 := ⟨x.bits ^^^ signBit⟩
def value (x : Binary32) : BinaryValue := BinaryFormat.single.decode x.bits.toNat

def ofDecimal (digits : Nat) (exponent : Int) : Binary32 :=
  ⟨UInt32.ofNat (BinaryFormat.single.ofDecimal digits exponent)⟩

def widen (x : Binary32) : Binary64 :=
  let unsigned : Nat :=
    match x.value with
    | .notANumber => BinaryFormat.double.infinityWord + Nat.pow 2 51
    | .infinite _ => BinaryFormat.double.infinityWord
    | .finite _ ⟨significand, exponent, _⟩ =>
      if 0 ≤ exponent then BinaryFormat.double.nearestWord (significand * Nat.pow 2 exponent.toNat) 1
      else BinaryFormat.double.nearestWord significand (Nat.pow 2 (-exponent).toNat)
  let sign := if x.bits < signBit then 0 else BinaryFormat.double.signWord
  ⟨UInt64.ofNat (sign + unsigned)⟩

end Binary32

end MarkupTree
