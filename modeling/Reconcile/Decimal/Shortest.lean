import Reconcile.Decimal.Double

namespace Reconcile

namespace Double

def decimalExponent (x : Double) : Int :=
  let bits : Int := (Nat.log2 x.significand : Int) + x.exponent
  let e := (bits * 30103).fdiv 100000
  let atLeast (k : Int) : Bool :=
    Nat.pow 10 k.toNat * x.denominator ≤ x.numerator * Nat.pow 10 (-k).toNat
  if atLeast (e + 1) then e + 1 else if atLeast e then e else e - 1

/-- The neighbours of `x` on the grid of multiples of `10 ^ k` that read back as `x`; of two the
nearer, of two as near the even one. Distances are in quarters of the last binary place. -/
def onGrid (x : Double) (k : Int) : Option Nat :=
  let unit := x.exponent - 2
  let left := Nat.pow 10 k.toNat * pow2 (-unit)
  let right := Nat.pow 10 (-k).toNat * pow2 unit
  let value := 4 * x.significand * right
  let lowGap := if x.significand = Nat.pow 2 52 && minExponent < x.exponent then 1 else 2
  let low := (4 * x.significand - lowGap) * right
  let high := (4 * x.significand + 2) * right
  let closed := x.significand % 2 = 0
  let inside (n : Nat) : Bool :=
    if closed then low ≤ n && n ≤ high else low < n && n < high
  let c := value / left
  let below := c * left
  let above := (c + 1) * left
  match inside below, inside above with
  | false, false => none
  | true, false => some c
  | false, true => some (c + 1)
  | true, true =>
      if value - below < above - value then some c
      else if above - value < value - below then some (c + 1)
      else some (c + c % 2)

def search (x : Double) : Nat → Int → Nat × Int
  | 0, k => (0, k)
  | fuel + 1, k =>
      match x.onGrid k with
      | some c => (c, k)
      | none => search x fuel (k - 1)

def stripZeros : Nat → Nat → Int → Nat × Int
  | 0, c, k => (c, k)
  | fuel + 1, c, k => if c % 10 = 0 then stripZeros fuel (c / 10) (k + 1) else (c, k)

def shortest (x : Double) : Nat × Int :=
  let (c, k) := x.search 18 x.decimalExponent
  stripZeros 20 c k

def zeros (n : Nat) : List Char := List.replicate n '0'

def layout (digits : List Char) (k : Int) : List Char :=
  let point := digits.length + k
  if 0 ≤ k ∧ point ≤ 16 then digits ++ zeros k.toNat ++ ['.', '0']
  else if 0 < point ∧ point ≤ 16 then
    digits.take point.toNat ++ '.' :: digits.drop point.toNat
  else if -5 < point ∧ point ≤ 0 then '0' :: '.' :: zeros (-point).toNat ++ digits
  else
    let mantissa := match digits with
      | [] => []
      | [d] => [d]
      | d :: ds => d :: '.' :: ds
    mantissa ++ 'e' :: (toString (point - 1)).toList

def text (x : Double) : String :=
  let magnitude :=
    if x.isZero then ['0', '.', '0']
    else
      let (c, k) := x.shortest
      layout (Nat.toDigits 10 c) k
  String.ofList (if x.negative then '-' :: magnitude else magnitude)

end Double

end Reconcile
