import MarkupTree.Number.Shortest

/-! How the digits of a number are set: with the point among them and zeros around them, or one
digit before the point and a power of ten behind. -/
namespace MarkupTree

/-- The choices that the forms of number text differ in. -/
structure NumberLayout where
  tie : Tie
  /-- Whether a number whose first digit stands for this power of ten is set without a power. -/
  positional : Int → Bool
  /-- Whether a whole number keeps a zero behind the point. -/
  keepPoint : Bool
  /-- Whether a power of ten that is not negative has a plus sign. -/
  plusSign : Bool

namespace NumberLayout

/-- Inside markup: never a power of ten, and whole numbers without a point. -/
def plain : NumberLayout := ⟨.up, fun _ => true, false, false⟩

/-- For programmers: a power of ten from `1e16` on and below `1e-4`. -/
def exact : NumberLayout := ⟨.up, fun exponent => -4 ≤ exponent && exponent < 16, true, false⟩

/-- In JSON: a power of ten from `1e+16` on and below `1e-5`. -/
def json : NumberLayout := ⟨.even, fun exponent => -5 ≤ exponent && exponent < 16, true, true⟩

def zeros (count : Int) : List Char := List.replicate count.toNat '0'

def positionalChars (layout : NumberLayout) (digits : List Char) (exponent : Int) : List Char :=
  let point : Int := digits.length + exponent
  if 0 ≤ exponent then
    digits ++ zeros exponent ++ (if layout.keepPoint then ['.', '0'] else [])
  else if 0 < point then digits.take point.toNat ++ '.' :: digits.drop point.toNat
  else '0' :: '.' :: zeros (-point) ++ digits

def scientificChars (layout : NumberLayout) (digits : List Char) (exponent : Int) : List Char :=
  let power : Int := digits.length + exponent - 1
  digits.take 1 ++ (if digits.length ≤ 1 then [] else '.' :: digits.drop 1) ++
    'e' :: (if layout.plusSign && 0 ≤ power then ['+'] else []) ++ (toString power).toList

def decimalChars (layout : NumberLayout) (x : Decimal) : List Char :=
  let digits := Nat.toDigits 10 x.digits
  if layout.positional (digits.length + x.exponent - 1) then
    layout.positionalChars digits x.exponent
  else layout.scientificChars digits x.exponent

def chars (layout : NumberLayout) : BinaryValue → List Char
  | .notANumber => "NaN".toList
  | .infinite negative => (if negative then ['-'] else []) ++ "inf".toList
  | .finite negative magnitude =>
    (if negative then ['-'] else []) ++ layout.decimalChars (magnitude.shortest layout.tie)

def text (layout : NumberLayout) (x : BinaryValue) : String := String.ofList (layout.chars x)

end NumberLayout

end MarkupTree
