namespace Reconcile

/-- Nanoseconds. -/
abbrev Duration := Nat

namespace Duration

def ofSecs (n : Nat) : Duration := n * 1000000000

def ofMillis (n : Nat) : Duration := n * 1000000

def millis (d : Duration) : Nat := d / 1000000

def fractionDigits : Nat → Nat → List Char
  | 0, _ => []
  | width + 1, part =>
      if part = 0 then []
      else
        (Nat.digitChar (part / Nat.pow 10 width)) :: fractionDigits width (part % Nat.pow 10 width)

def inUnit (d : Duration) (width : Nat) (unit : String) : String :=
  let part := d % Nat.pow 10 width
  let digits := fractionDigits width part
  let fraction := if digits.isEmpty then "" else "." ++ String.ofList digits
  toString (d / Nat.pow 10 width) ++ fraction ++ unit

def text (d : Duration) : String :=
  if 1000000000 ≤ d then inUnit d 9 "s"
  else if 1000000 ≤ d then inUnit d 6 "ms"
  else if 1000 ≤ d then inUnit d 3 "µs"
  else inUnit d 0 "ns"

example : text (ofSecs 240) = "240s" := by decide
example : text 12340 = "12.34µs" := by decide
example : text 0 = "0ns" := by decide

end Duration

end Reconcile
