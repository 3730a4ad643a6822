import Reconcile.Text.Utf8

namespace Reconcile.Text.Utf8

variable {c d : Char} {s t : List Char} {rest rest' : List UInt8}

theorem encodeChar_eq (c : Char) : encodeChar c = String.utf8EncodeChar c := by
  have hbound : c.val.toNat < 0x110000 := by
    have hvalid : c.val.toNat < 0xD800 ∨ 0xDFFF < c.val.toNat ∧ c.val.toNat < 0x110000 := c.valid
    omega
  unfold encodeChar String.utf8EncodeChar Char.toNat
  generalize c.val.toNat = n at hbound
  dsimp only
  rcases Nat.lt_or_ge n 0x80 with hone | hone
  · rw [if_pos hone, if_pos (show n ≤ 0x7f by omega)]
  rw [if_neg (show ¬ n < 0x80 by omega), if_neg (show ¬ n ≤ 0x7f by omega)]
  rcases Nat.lt_or_ge n 0x800 with htwo | htwo
  · have hlead : 0xC0 + n / 64 = n / 64 % 0x20 + 0xc0 := by omega
    rw [if_pos htwo, if_pos (show n ≤ 0x7ff by omega), hlead, Nat.add_comm 0x80 (n % 64)]
  rw [if_neg (show ¬ n < 0x800 by omega), if_neg (show ¬ n ≤ 0x7ff by omega),
    Nat.add_comm 0x80 (n / 64 % 64), Nat.add_comm 0x80 (n % 64)]
  rcases Nat.lt_or_ge n 0x10000 with hthree | hthree
  · have hlead : 0xE0 + n / 4096 = n / 4096 % 0x10 + 0xe0 := by omega
    rw [if_pos hthree, if_pos (show n ≤ 0xffff by omega), hlead]
  · have hlead : 0xF0 + n / 262144 = n / 262144 % 0x08 + 0xf0 := by omega
    rw [if_neg (show ¬ n < 0x10000 by omega), if_neg (show ¬ n ≤ 0xffff by omega), hlead,
      Nat.add_comm 0x80 (n / 4096 % 64)]

theorem encode_injective (h : encode s = encode t) : s = t := by
  have hbytes : ∀ s, encode s = s.flatMap String.utf8EncodeChar := by
    intro s
    simp only [encode, funext encodeChar_eq]
  rw [hbytes, hbytes] at h
  have hstring : String.ofList s = String.ofList t := by
    rw [← String.toByteArray_inj]
    exact congrArg List.toByteArray h
  exact String.ofList_injective hstring

theorem encodeChar_ne_nil (c : Char) : encodeChar c ≠ [] := by
  rw [encodeChar_eq]
  exact String.utf8EncodeChar_ne_nil

theorem encodeChar_append_inj (h : encodeChar c ++ rest = encodeChar d ++ rest') :
    c = d ∧ rest = rest' := by
  have hchar : some c = some d := by
    have hbytes := congrArg (fun bytes => bytes.toByteArray.utf8DecodeChar? 0) h
    simpa only [encodeChar_eq, List.toByteArray_append,
      ByteArray.utf8DecodeChar?_utf8EncodeChar_append] using hbytes
  obtain ⟨⟩ := hchar
  exact ⟨rfl, List.append_cancel_left h⟩

theorem prefix_of_encode (h : encode s <+: encode t) : s <+: t := by
  induction s generalizing t with
  | nil => exact List.nil_prefix
  | cons c s ih =>
      obtain ⟨rest, hrest⟩ := h
      rw [encode_cons, List.append_assoc] at hrest
      cases t with
      | nil => exact absurd (List.append_eq_nil_iff.1 hrest).1 (encodeChar_ne_nil c)
      | cons d t =>
          rw [encode_cons] at hrest
          obtain ⟨rfl, htail⟩ := encodeChar_append_inj hrest
          exact List.cons_prefix_cons.2 ⟨rfl, ih ⟨rest, htail⟩⟩

theorem encode_prefix_iff : encode s <+: encode t ↔ s <+: t := by
  constructor
  · exact prefix_of_encode
  · rintro ⟨rest, rfl⟩
    rw [encode_append]
    exact List.prefix_append _ _

end Reconcile.Text.Utf8
