namespace Reconcile

/-- The number `significand * 2 ^ exponent` with a sign. The exponent is the least possible. -/
structure Double where
  negative : Bool
  significand : Nat
  exponent : Int
  deriving DecidableEq, Repr

namespace Double

def minExponent : Int := -1074

def maxExponent : Int := 971

def zero (negative : Bool) : Double := ⟨negative, 0, minExponent⟩

def isZero (x : Double) : Bool := x.significand == 0

def same (x y : Double) : Bool :=
  if x.isZero then y.isZero else x == y

def pow2 (e : Int) : Nat := Nat.pow 2 e.toNat

def numerator (x : Double) : Nat := x.significand * pow2 x.exponent

def denominator (x : Double) : Nat := pow2 (-x.exponent)

def divideToEven (num den : Nat) : Nat :=
  let q := num / den
  let r := num % den
  if 2 * r < den then q
  else if 2 * r = den then q + q % 2
  else q + 1

def scaleOf (num den : Nat) : Int :=
  let e : Int := (Nat.log2 num : Int) - (Nat.log2 den : Int) - 52
  let e := if num * pow2 (-e) < den * pow2 e * Nat.pow 2 52 then e - 1 else e
  max e minExponent

def ofRatio (negative : Bool) (num den : Nat) : Option Double :=
  if num = 0 then some (zero negative)
  else
    let e := scaleOf num den
    let m := divideToEven (num * pow2 (-e)) (den * pow2 e)
    let (m, e) := if m = Nat.pow 2 53 then (Nat.pow 2 52, e + 1) else (m, e)
    if maxExponent < e then none else some ⟨negative, m, e⟩

def ofNat (n : Nat) : Option Double := ofRatio false n 1

def mul (x y : Double) : Option Double :=
  ofRatio (x.negative != y.negative) (x.numerator * y.numerator) (x.denominator * y.denominator)

def div (x y : Double) : Option Double :=
  ofRatio (x.negative != y.negative) (x.numerator * y.denominator) (x.denominator * y.numerator)

def negate (x : Double) : Double := { x with negative := !x.negative }

def powerOfTen (places : Nat) : Option Double := ofNat (Nat.pow 10 places)

def maxPlaces : Nat := 308

def scaleDown (x : Double) (last : Nat) : Nat → Option Double
  | 0 => (powerOfTen last).bind x.div
  | steps + 1 =>
      if x.isZero then some x
      else ((powerOfTen maxPlaces).bind x.div).bind fun y => scaleDown y last steps

def scale (x : Double) (places : Int) : Option Double :=
  if places < 0 then
    let steps := ((-places).toNat - 1) / maxPlaces
    x.scaleDown ((-places).toNat - steps * maxPlaces) steps
  else if x.isZero then some x
  else if maxPlaces < places then none
  else (powerOfTen places.toNat).bind x.mul

end Double

end Reconcile
