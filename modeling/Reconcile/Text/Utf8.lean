namespace Reconcile.Text.Utf8

def isTail (b : UInt8) : Bool := 0x80 ≤ b && b ≤ 0xBF

def tailBits (b : UInt8) : Nat := b.toNat % 64

/-- Reads up to `count` further bytes. The first of them has bounds of its own. -/
def tails (count lo hi value : Nat) : List UInt8 → Option Nat × List UInt8
  | [] => (if count = 0 then some value else none, [])
  | b :: bs =>
      match count with
      | 0 => (some value, b :: bs)
      | count + 1 =>
          if lo ≤ b.toNat && b.toNat ≤ hi then tails count 0x80 0xBF (value * 64 + tailBits b) bs
          else (none, b :: bs)

theorem length_tails (count lo hi value : Nat) (bs : List UInt8) :
    (tails count lo hi value bs).2.length ≤ bs.length := by
  induction bs generalizing count lo hi value with
  | nil => simp [tails]
  | cons b bs ih =>
      cases count with
      | zero => simp [tails]
      | succ count =>
          simp only [tails]
          split
          · exact Nat.le_succ_of_le (ih ..)
          · simp

def next (b : UInt8) (bs : List UInt8) : Option Nat × List UInt8 :=
  let n := b.toNat
  if n < 0x80 then (some n, bs)
  else if n < 0xC2 then (none, bs)
  else if n < 0xE0 then tails 1 0x80 0xBF (n - 0xC0) bs
  else if n = 0xE0 then tails 2 0xA0 0xBF 0 bs
  else if n = 0xED then tails 2 0x80 0x9F 13 bs
  else if n < 0xF0 then tails 2 0x80 0xBF (n - 0xE0) bs
  else if n = 0xF0 then tails 3 0x90 0xBF 0 bs
  else if n < 0xF4 then tails 3 0x80 0xBF (n - 0xF0) bs
  else if n = 0xF4 then tails 3 0x80 0x8F 4 bs
  else (none, bs)

theorem length_next (b : UInt8) (bs : List UInt8) : (next b bs).2.length ≤ bs.length := by
  unfold next
  simp only
  repeat' split
  all_goals first
    | exact length_tails ..
    | exact Nat.le_refl _

def decode? : List UInt8 → Option (List Char)
  | [] => some []
  | b :: bs =>
      match (next b bs).1 with
      | none => none
      | some n => (decode? (next b bs).2).map (Char.ofNat n :: ·)
termination_by bs => bs.length
decreasing_by exact Nat.lt_succ_of_le (length_next b bs)

def decodeLossy : List UInt8 → List Char
  | [] => []
  | b :: bs =>
      let c := match (next b bs).1 with
        | none => '\uFFFD'
        | some n => Char.ofNat n
      c :: decodeLossy (next b bs).2
termination_by bs => bs.length
decreasing_by exact Nat.lt_succ_of_le (length_next b bs)

def encodeChar (c : Char) : List UInt8 :=
  let n := c.toNat
  if n < 0x80 then [n.toUInt8]
  else if n < 0x800 then [(0xC0 + n / 64).toUInt8, (0x80 + n % 64).toUInt8]
  else if n < 0x10000 then
    [(0xE0 + n / 4096).toUInt8, (0x80 + n / 64 % 64).toUInt8, (0x80 + n % 64).toUInt8]
  else
    [(0xF0 + n / 262144).toUInt8, (0x80 + n / 4096 % 64).toUInt8, (0x80 + n / 64 % 64).toUInt8,
      (0x80 + n % 64).toUInt8]

def encode (s : List Char) : List UInt8 := s.flatMap encodeChar

theorem encode_cons (c : Char) (s : List Char) : encode (c :: s) = encodeChar c ++ encode s :=
  List.flatMap_cons

theorem encode_append (s t : List Char) : encode (s ++ t) = encode s ++ encode t :=
  List.flatMap_append

def size : List Char → Nat
  | [] => 0
  | c :: s => c.utf8Size + size s

end Reconcile.Text.Utf8
