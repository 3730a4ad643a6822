import Reconcile.Text.Utf8

namespace Reconcile.Text.Utf8

variable {c : Char} {s : List Char} {bytes : List UInt8} {place : Nat}

def isBoundary (bytes : List UInt8) (place : Nat) : Bool :=
  match bytes[place]? with
  | some b => place == 0 || !isTail b
  | none => place == bytes.length

def lastBoundary? (bytes : List UInt8) : Nat → Option Nat
  | 0 => if isBoundary bytes 0 then some 0 else none
  | place + 1 =>
      if isBoundary bytes (place + 1) then some (place + 1) else lastBoundary? bytes place

/-- The characters before a place; nothing if it lies inside a character or beyond the end. -/
def upTo? : Nat → List Char → Option (List Char)
  | 0, _ => some []
  | _ + 1, [] => none
  | place + 1, c :: s =>
      if c.utf8Size ≤ place + 1 then (upTo? (place + 1 - c.utf8Size) s).map (c :: ·) else none

theorem utf8Size_eq (c : Char) : c.utf8Size =
    if c.toNat < 0x80 then 1 else if c.toNat < 0x800 then 2 else if c.toNat < 0x10000 then 3
    else 4 := by
  simp only [Char.utf8Size, UInt32.le_iff_toNat_le, Char.toNat]
  grind

theorem isTail_toUInt8_iff {n : Nat} (h : n < 256) :
    isTail n.toUInt8 = true ↔ 128 ≤ n ∧ n ≤ 191 := by
  simp [isTail, UInt8.le_iff_toNat_le, Nat.mod_eq_of_lt h]

theorem encodeChar_shape (c : Char) : ∃ lead tails, encodeChar c = lead :: tails ∧
    tails.length + 1 = c.utf8Size ∧ isTail lead = false ∧ ∀ b ∈ tails, isTail b = true := by
  have hbound : c.toNat < 0x110000 := by
    have hvalid : c.toNat < 0xD800 ∨ 0xDFFF < c.toNat ∧ c.toNat < 0x110000 := c.valid
    omega
  have hlead : ∀ n, n < 0x80 ∨ 0xC0 ≤ n ∧ n < 0x100 → isTail n.toUInt8 = false := by
    intro n hn
    rw [Bool.eq_false_iff, ne_eq, isTail_toUInt8_iff (by omega)]
    omega
  have htail : ∀ n, n < 64 → isTail (0x80 + n).toUInt8 = true := by
    intro n hn
    exact (isTail_toUInt8_iff (by omega)).2 (by omega)
  rw [utf8Size_eq, encodeChar]
  generalize c.toNat = n at hbound
  rcases Nat.lt_or_ge n 0x80 with hone | hone
  · rw [if_pos hone, if_pos hone]
    exact ⟨_, _, rfl, rfl, hlead n (.inl hone), by simp⟩
  rw [if_neg (Nat.not_lt.2 hone), if_neg (Nat.not_lt.2 hone)]
  rcases Nat.lt_or_ge n 0x800 with htwo | htwo
  · rw [if_pos htwo, if_pos htwo]
    refine ⟨_, _, rfl, rfl, hlead _ (by omega), ?_⟩
    simp only [List.mem_singleton, forall_eq]
    exact htail _ (by omega)
  rw [if_neg (Nat.not_lt.2 htwo), if_neg (Nat.not_lt.2 htwo)]
  rcases Nat.lt_or_ge n 0x10000 with hthree | hthree
  · rw [if_pos hthree, if_pos hthree]
    refine ⟨_, _, rfl, rfl, hlead _ (by omega), ?_⟩
    simp only [List.mem_cons, List.not_mem_nil, or_false, forall_eq_or_imp, forall_eq]
    exact ⟨htail _ (by omega), htail _ (by omega)⟩
  · rw [if_neg (Nat.not_lt.2 hthree), if_neg (Nat.not_lt.2 hthree)]
    refine ⟨_, _, rfl, rfl, hlead _ (by omega), ?_⟩
    simp only [List.mem_cons, List.not_mem_nil, or_false, forall_eq_or_imp, forall_eq]
    exact ⟨htail _ (by omega), htail _ (by omega), htail _ (by omega)⟩

theorem length_encodeChar (c : Char) : (encodeChar c).length = c.utf8Size := by
  obtain ⟨lead, tails, hchar, hlength, -⟩ := encodeChar_shape c
  rw [hchar, List.length_cons, hlength]

theorem length_encode (s : List Char) : (encode s).length = size s := by
  induction s with
  | nil => rfl
  | cons c s ih => rw [encode_cons, List.length_append, length_encodeChar, ih, size]

theorem isBoundary_zero (bytes : List UInt8) : isBoundary bytes 0 = true := by
  cases bytes <;> rfl

theorem isTail_head_encode {b : UInt8} (h : (encode s)[0]? = some b) : isTail b = false := by
  cases s with
  | nil => cases h
  | cons c s =>
      obtain ⟨lead, tails, hchar, -, hlead, -⟩ := encodeChar_shape c
      rw [encode_cons, hchar] at h
      cases h
      exact hlead

theorem isBoundary_inside (hpos : 0 < place) (h : place < c.utf8Size) :
    isBoundary (encode (c :: s)) place = false := by
  obtain ⟨lead, tails, hchar, hlength, -, htails⟩ := encodeChar_shape c
  have hplace : place - 1 < tails.length := by omega
  have hbyte : (encode (c :: s))[place]? = some tails[place - 1] := by
    rw [encode_cons, hchar, List.cons_append, List.getElem?_cons, if_neg (by omega),
      List.getElem?_append_left hplace, List.getElem?_eq_getElem hplace]
  have htail : isTail tails[place - 1] = true := htails _ (List.getElem_mem hplace)
  unfold isBoundary
  rw [hbyte]
  dsimp only
  rw [beq_false_of_ne (Nat.ne_of_gt hpos), htail]
  rfl

theorem isBoundary_after (h : c.utf8Size ≤ place) :
    isBoundary (encode (c :: s)) place = isBoundary (encode s) (place - c.utf8Size) := by
  have hlength := length_encodeChar c
  have hbyte : (encode (c :: s))[place]? = (encode s)[place - c.utf8Size]? := by
    rw [encode_cons, List.getElem?_append_right (by omega), hlength]
  unfold isBoundary
  rw [hbyte]
  cases hb : (encode s)[place - c.utf8Size]? with
  | none =>
      rw [encode_cons, List.length_append, hlength, Bool.eq_iff_iff]
      simp only [beq_iff_eq]
      omega
  | some b =>
      -- Right after `c` the byte is the first one of `s`, a boundary there without looking at it.
      rcases Nat.eq_zero_or_pos (place - c.utf8Size) with hzero | hpos
      · rw [hzero] at hb
        simp [isTail_head_encode hb]
      · have hplace : place ≠ 0 := by omega
        rw [beq_false_of_ne hplace, beq_false_of_ne (Nat.ne_of_gt hpos)]

theorem isSome_upTo? (place : Nat) (s : List Char) :
    (upTo? place s).isSome = isBoundary (encode s) place := by
  induction s generalizing place with
  | nil => cases place <;> rfl
  | cons c s ih =>
      cases place with
      | zero => rw [isBoundary_zero, upTo?, Option.isSome_some]
      | succ place =>
          rw [upTo?]
          split
          · next h => rw [Option.isSome_map, ih, isBoundary_after h]
          · next h =>
              rw [isBoundary_inside (Nat.succ_pos place) (Nat.lt_of_not_le h), Option.isSome_none]

theorem size_append (s t : List Char) : size (s ++ t) = size s + size t := by
  simp only [← length_encode, encode_append, List.length_append]

theorem upTo?_size_append (s t : List Char) : upTo? (size s) (s ++ t) = some s := by
  induction s with
  | nil => rw [size, upTo?]
  | cons c s ih =>
      obtain ⟨n, hsize⟩ := Nat.exists_eq_add_one.2 (Nat.add_pos_left c.utf8Size_pos (size s))
      rw [size, hsize, List.cons_append, upTo?, ← hsize, if_pos (Nat.le_add_right ..),
        Nat.add_sub_cancel_left, ih, Option.map_some]

theorem upTo?_eq_some_iff {beginning : List Char} :
    upTo? place s = some beginning ↔ beginning <+: s ∧ size beginning = place := by
  constructor
  · intro h
    induction s generalizing place beginning with
    | nil =>
        cases place with
        | zero => cases h; exact ⟨List.nil_prefix, rfl⟩
        | succ place => cases h
    | cons c s ih =>
        cases place with
        | zero => cases h; exact ⟨List.nil_prefix, rfl⟩
        | succ place =>
            rw [upTo?] at h
            split at h
            · next hle =>
              obtain ⟨piece, hpiece, rfl⟩ := Option.map_eq_some_iff.1 h
              obtain ⟨hbegins, hsize⟩ := ih hpiece
              refine ⟨List.cons_prefix_cons.2 ⟨rfl, hbegins⟩, ?_⟩
              rw [size, hsize]
              omega
            · cases h
  · rintro ⟨⟨rest, rfl⟩, rfl⟩
    exact upTo?_size_append beginning rest

theorem lastBoundary?_law (bytes : List UInt8) (limit : Nat) :
    ∃ place, lastBoundary? bytes limit = some place ∧ isBoundary bytes place = true ∧
      place ≤ limit ∧ ∀ other, place < other → other ≤ limit → isBoundary bytes other = false := by
  induction limit with
  | zero =>
      refine ⟨0, ?_, isBoundary_zero bytes, Nat.le_refl 0, by omega⟩
      rw [lastBoundary?, if_pos (isBoundary_zero bytes)]
  | succ limit ih =>
      rw [lastBoundary?]
      split
      · next hboundary => exact ⟨limit + 1, rfl, hboundary, Nat.le_refl _, by omega⟩
      · next hother =>
          obtain ⟨place, hfound, hboundary, hle, hlast⟩ := ih
          refine ⟨place, hfound, hboundary, by omega, fun other hlt hle => ?_⟩
          rcases Nat.lt_or_eq_of_le hle with hbefore | rfl
          · exact hlast other hlt (by omega)
          · simpa using hother

end Reconcile.Text.Utf8
