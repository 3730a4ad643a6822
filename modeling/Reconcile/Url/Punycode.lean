namespace Reconcile.Url.Punycode

def digit (d : Nat) : Char := Char.ofNat (if d < 26 then d + 97 else d + 22)

def digitValue? (c : Char) : Option Nat :=
  let n := c.toNat
  if 97 ≤ n && n ≤ 122 then some (n - 97)
  else if 65 ≤ n && n ≤ 90 then some (n - 65)
  else if 48 ≤ n && n ≤ 57 then some (n - 22)
  else none

def threshold (k bias : Nat) : Nat :=
  if k ≤ bias then 1 else if bias + 26 ≤ k then 26 else k - bias

theorem threshold_pos (k bias : Nat) : 1 ≤ threshold k bias := by
  unfold threshold
  repeat' split
  all_goals omega

theorem threshold_le (k bias : Nat) : threshold k bias ≤ 26 := by
  unfold threshold
  repeat' split
  all_goals omega

def reduce (delta k : Nat) : Nat × Nat :=
  if 455 < delta then reduce (delta / 35) (k + 36) else (delta, k)
termination_by delta
decreasing_by exact Nat.div_lt_self (by omega) (by omega)

def adapt (delta points : Nat) (first : Bool) : Nat :=
  let d := if first then delta / 700 else delta / 2
  let (d, k) := reduce (d + d / points) 0
  k + 36 * d / (d + 38)

def writeDelta (q k bias : Nat) : List Char :=
  let t := threshold k bias
  if t ≤ q then digit (t + (q - t) % (36 - t)) :: writeDelta ((q - t) / (36 - t)) (k + 36) bias
  else [digit q]
termination_by q
decreasing_by
  have h1 := threshold_pos k bias
  have h2 := threshold_le k bias
  have : (q - threshold k bias) / (36 - threshold k bias) ≤ q - threshold k bias :=
    Nat.div_le_self _ _
  omega

structure Coder where
  delta : Nat
  bias : Nat
  handled : Nat
  basic : Nat

def writePass (n : Nat) : List Char → Coder → List Char × Coder
  | [], s => ([], s)
  | c :: cs, s =>
      if c.toNat < n then writePass n cs { s with delta := s.delta + 1 }
      else if c.toNat = n then
        let out := writeDelta s.delta 36 s.bias
        let bias := adapt s.delta (s.handled + 1) (s.handled == s.basic)
        let (rest, s) := writePass n cs { s with delta := 0, bias, handled := s.handled + 1 }
        (out ++ rest, s)
      else writePass n cs s

def writePasses (label : List Char) (previous : Nat) : List Nat → Coder → List Char
  | [], _ => []
  | n :: ns, s =>
      let s := { s with delta := s.delta + (n - previous) * (s.handled + 1) }
      let (out, s) := writePass n label s
      out ++ writePasses label (n + 1) ns { s with delta := s.delta + 1 }

def encode (label : List Char) : List Char :=
  let basic := label.filter (·.toNat < 128)
  let points := ((label.map Char.toNat).filter (128 ≤ ·)).mergeSort.eraseDups
  let lead := if basic.isEmpty then [] else basic ++ ['-']
  lead ++ writePasses label 128 points ⟨0, 72, basic.length, basic.length⟩

example : encode "bücher".toList = "bcher-kva".toList := by decide +kernel

def readDelta (bias : Nat) : Nat → Nat → Nat → List Char → Option (Nat × List Char)
  | _, _, _, [] => none
  | k, weight, value, c :: cs =>
      match digitValue? c with
      | none => none
      | some d =>
          let value := value + d * weight
          let t := threshold k bias
          if d < t then some (value, cs) else readDelta bias (k + 36) (weight * (36 - t)) value cs

theorem length_readDelta {bias k weight value n : Nat} {s rest : List Char}
    (h : readDelta bias k weight value s = some (n, rest)) : rest.length < s.length := by
  induction s generalizing k weight value with
  | nil => simp [readDelta] at h
  | cons c cs ih =>
      unfold readDelta at h
      split at h
      · simp at h
      · simp only at h
        split at h
        · simp at h; simp [h.2]
        · have := ih h; simp; omega

def readAll (n i bias : Nat) (out : List Char) (s : List Char) : Option (List Char) :=
  if s.isEmpty then some out
  else
    match _h : readDelta bias 36 1 0 s with
    | none => none
    | some (delta, rest) =>
        let i := i + delta
        let count := out.length + 1
        let n := n + i / count
        let at' := i % count
        if 0x10FFFF < n || (0xD800 ≤ n && n ≤ 0xDFFF) then none
        else
          readAll n (at' + 1) (adapt delta count out.isEmpty)
            (out.take at' ++ Char.ofNat n :: out.drop at') rest
termination_by s.length
decreasing_by exact length_readDelta _h

def readFrom (basic s : List Char) : Option (List Char) :=
  if basic.isEmpty then readAll 128 0 72 [] s
  else
    match readDelta 72 36 1 0 s with
    | none => if s.isEmpty then some basic else none
    | some (delta, rest) =>
        let count := basic.length + 1
        let n := 128 + delta / count
        let at' := delta % count
        if 0x10FFFF < n || (0xD800 ≤ n && n ≤ 0xDFFF) then none
        else
          readAll n (at' + 1) (adapt delta count true)
            (basic.take at' ++ Char.ofNat n :: basic.drop at') rest

def decode? (s : List Char) : Option (List Char) :=
  match s.reverse.span (· != '-') with
  | (tail, []) => readFrom [] tail.reverse
  | (tail, _ :: head) => readFrom head.reverse tail.reverse

example : decode? "bcher-kva".toList = some "bücher".toList := by decide +kernel

end Reconcile.Url.Punycode
