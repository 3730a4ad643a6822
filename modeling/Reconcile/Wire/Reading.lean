import Reconcile.Json.Decode

namespace Reconcile.Wire

def string? (remote : Json) (key : String) : Option String :=
  ((remote.get? key).bind Json.asStr?).filter (!·.isEmpty)

def integer? (s : String) : Option Int :=
  let (negative, digits) := match s.toList with
    | '-' :: ds => (true, ds)
    | '+' :: ds => (false, ds)
    | ds => (false, ds)
  if digits.isEmpty || !digits.all Char.isDigit then none
  else
    let n : Int := digits.foldl (fun n c => n * 10 + (c.toNat - 48)) 0
    let n := if negative then -n else n
    if Decode.minSigned ≤ n ∧ n ≤ Decode.maxSigned then some n else none

def int? (remote : Json) (key : String) : Option Int :=
  match remote.get? key with
  | some (.int n) => if n ≤ Decode.maxSigned then some n else none
  | some (.str s) => integer? s
  | _ => none

def strings (remote : Json) (key : String) : List String :=
  match (remote.get? key).bind Json.asArr? with
  | some items => items.filterMap Json.asStr?
  | none => []

end Reconcile.Wire
