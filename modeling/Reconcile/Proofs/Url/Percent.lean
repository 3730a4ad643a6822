import Reconcile.Proofs.Text.Utf8
import Reconcile.Url.Percent

namespace Reconcile.Url

variable {set : Char → Bool} {s t : List Char} {a b c : Char}

def startsHexPair : List Char → Bool
  | a :: b :: _ => Text.isHexDigit a && Text.isHexDigit b
  | _ => false

def hasEscape : List Char → Bool
  | [] => false
  | c :: cs => (c == '%' && startsHexPair cs) || hasEscape cs

theorem percentDecode_cons (h : c ≠ '%') :
    percentDecode (c :: s) = Text.Utf8.encodeChar c ++ percentDecode s := by
  rw [percentDecode]
  intro a b rest hc
  exact absurd hc h

theorem percentDecode_escape (ha : Text.isHexDigit a = true) (hb : Text.isHexDigit b = true) :
    percentDecode ('%' :: a :: b :: s) =
      (Text.hexValue a * 16 + Text.hexValue b).toUInt8 :: percentDecode s := by
  rw [percentDecode]
  simp [ha, hb]

theorem percentDecode_percent (h : startsHexPair s = false) :
    percentDecode ('%' :: s) = 0x25 :: percentDecode s := by
  match s with
  | [] => rfl
  | [a] => rfl
  | a :: b :: rest =>
      have hpair : (Text.isHexDigit a && Text.isHexDigit b) = false := h
      rw [percentDecode]
      simp [hpair]

theorem exists_of_startsHexPair (h : startsHexPair s = true) : ∃ a b t, s = a :: b :: t := by
  match s with
  | [] => cases h
  | [a] => cases h
  | a :: b :: t => exact ⟨a, b, t, rfl⟩

theorem escape_induction {motive : List Char → Prop} (nil : motive [])
    (escape : ∀ a b s, Text.isHexDigit a = true → Text.isHexDigit b = true → motive s →
      motive ('%' :: a :: b :: s))
    (percent : ∀ s, startsHexPair s = false → motive s → motive ('%' :: s))
    (plain : ∀ c s, c ≠ '%' → motive s → motive (c :: s)) (s : List Char) : motive s := by
  induction s using percentDecode.induct with
  | case1 => exact nil
  | case2 a b s hpair ih =>
      obtain ⟨ha, hb⟩ := Bool.and_eq_true_iff.1 hpair
      exact escape a b s ha hb ih
  | case3 a b s hpair ih => exact percent _ (Bool.eq_false_iff.2 hpair) ih
  | case4 c s hpair ih =>
      by_cases hc : c = '%'
      · subst hc
        refine percent s ?_ ih
        rw [Bool.eq_false_iff]
        intro hstarts
        obtain ⟨a, b, t, rfl⟩ := exists_of_startsHexPair hstarts
        exact hpair a b t rfl rfl
      · exact plain c s hc ih

theorem hasEscape_cons (h : c ≠ '%') : hasEscape (c :: s) = hasEscape s := by
  simp [hasEscape, h]

theorem percentDecode_of_no_escape (h : hasEscape s = false) :
    percentDecode s = Text.Utf8.encode s := by
  induction s using escape_induction with
  | nil => rfl
  | escape a b s ha hb ih => simp [hasEscape, startsHexPair, ha, hb] at h
  | percent s hs ih =>
      have hrest : hasEscape s = false := by simpa [hasEscape, hs] using h
      rw [percentDecode_percent hs, ih hrest]
      rfl
  | plain c s hc ih =>
      rw [hasEscape_cons hc] at h
      rw [percentDecode_cons hc, ih h]
      rfl

theorem length_encode_cons (c : Char) (s : List Char) :
    (Text.Utf8.encode (c :: s)).length =
      (Text.Utf8.encodeChar c).length + (Text.Utf8.encode s).length :=
  List.length_append

theorem length_encodeChar_pos (c : Char) : 0 < (Text.Utf8.encodeChar c).length :=
  List.length_pos_iff.2 (Text.Utf8.encodeChar_ne_nil c)

theorem length_percentDecode_le (s : List Char) :
    (percentDecode s).length ≤ (Text.Utf8.encode s).length := by
  induction s using escape_induction with
  | nil => exact Nat.le_refl 0
  | escape a b s ha hb ih =>
      have hfirst := length_encodeChar_pos '%'
      rw [percentDecode_escape ha hb, List.length_cons, length_encode_cons, length_encode_cons,
        length_encode_cons]
      omega
  | percent s hs ih =>
      have hfirst := length_encodeChar_pos '%'
      rw [percentDecode_percent hs, List.length_cons, length_encode_cons]
      omega
  | plain c s hc ih =>
      rw [percentDecode_cons hc, List.length_append, length_encode_cons]
      omega

theorem length_percentDecode_lt (h : hasEscape s = true) :
    (percentDecode s).length < (Text.Utf8.encode s).length := by
  induction s using escape_induction with
  | nil => cases h
  | escape a b s ha hb ih =>
      have hpercent := length_encodeChar_pos '%'
      have hfirst := length_encodeChar_pos a
      have hrest := length_percentDecode_le s
      rw [percentDecode_escape ha hb, List.length_cons, length_encode_cons, length_encode_cons,
        length_encode_cons]
      omega
  | percent s hs ih =>
      have hlater : hasEscape s = true := by simpa [hasEscape, hs] using h
      have hpercent := length_encodeChar_pos '%'
      have hrest := ih hlater
      rw [percentDecode_percent hs, List.length_cons, length_encode_cons]
      omega
  | plain c s hc ih =>
      rw [hasEscape_cons hc] at h
      have hrest := ih h
      rw [percentDecode_cons hc, List.length_append, length_encode_cons]
      omega

def Transparent (set : Char → Bool) : Prop :=
  ∀ c, c = '%' ∨ Text.isHexDigit c = true → set c = false

theorem toNat_of_isHexDigit (h : Text.isHexDigit c = true) :
    (48 ≤ c.toNat ∧ c.toNat ≤ 57) ∨ (97 ≤ c.toNat ∧ c.toNat ≤ 102) ∨
      (65 ≤ c.toNat ∧ c.toNat ≤ 70) := by
  simp only [Text.isHexDigit, Char.isDigit, Bool.or_eq_true, Bool.and_eq_true,
    decide_eq_true_eq, Char.le_def, UInt32.le_iff_toNat_le, ge_iff_le] at h
  rcases h with (h | h) | h
  · exact .inl h
  · exact .inr (.inl h)
  · exact .inr (.inr h)

theorem isAscii_of_isHexDigit (h : Text.isHexDigit c = true) : Text.isAscii c = true := by
  have hbounds := toNat_of_isHexDigit h
  have hascii : c.toNat < 128 := by omega
  exact decide_eq_true hascii

theorem transparent_inPathSet : Transparent inPathSet := by
  rintro c (rfl | hhex)
  · decide
  · have hbounds := toNat_of_isHexDigit hhex
    rw [Bool.eq_false_iff]
    intro hset
    simp only [inPathSet, inFragmentSet, isControlChar, Bool.or_eq_true, beq_iff_eq,
      decide_eq_true_eq] at hset
    have hlow : ¬ (c.toNat < 32 ∨ c.toNat = 127) := by omega
    simp only [hlow, false_or] at hset
    repeat' rcases hset with hset | hset
    all_goals exact absurd hhex (by decide)

theorem encodeChar_of_kept (hset : Transparent set) (h : c = '%' ∨ Text.isHexDigit c = true) :
    encodeChar set c = [c] := by
  have hascii : Text.isAscii c = true := by
    rcases h with rfl | h
    · rfl
    · exact isAscii_of_isHexDigit h
  simp [encodeChar, hset c h, hascii]

theorem encodeByte_hex (n : Nat) (h : n < 16) :
    Text.isHexDigit (upperHexDigit n) = true ∧ Text.hexValue (upperHexDigit n) = n := by
  have hall : ∀ n : Fin 16, Text.isHexDigit (upperHexDigit n) = true ∧
      Text.hexValue (upperHexDigit n) = n := by decide
  exact hall ⟨n, h⟩

theorem percentDecode_encodeByte (b : UInt8) (s : List Char) :
    percentDecode (encodeByte b ++ s) = b :: percentDecode s := by
  have hb := b.toNat_lt
  obtain ⟨hhigh, hhighValue⟩ := encodeByte_hex (b.toNat / 16) (by omega)
  obtain ⟨hlow, hlowValue⟩ := encodeByte_hex (b.toNat % 16) (by omega)
  have hbyte : b.toNat / 16 * 16 + b.toNat % 16 = b.toNat := by omega
  show percentDecode ('%' :: upperHexDigit (b.toNat / 16) :: upperHexDigit (b.toNat % 16) :: s) = _
  rw [percentDecode_escape hhigh hlow, hhighValue, hlowValue, hbyte]
  simp

theorem percentDecode_encodeBytes (bytes : List UInt8) (s : List Char) :
    percentDecode (bytes.flatMap encodeByte ++ s) = bytes ++ percentDecode s := by
  induction bytes with
  | nil => rfl
  | cons b rest ih =>
      rw [List.flatMap_cons, List.append_assoc, percentDecode_encodeByte, ih]
      rfl

theorem percentDecode_encodeChar (h : c ≠ '%') (s : List Char) :
    percentDecode (encodeChar set c ++ s) = Text.Utf8.encodeChar c ++ percentDecode s := by
  unfold encodeChar
  split
  · exact percentDecode_encodeBytes _ s
  · exact percentDecode_cons h

theorem startsHexPair_cons (c : Char) (s : List Char) :
    startsHexPair (c :: s) = (Text.isHexDigit c && s.head?.any Text.isHexDigit) := by
  cases s with
  | nil => simp [startsHexPair]
  | cons d s => rfl

theorem head_percentEncode (hset : Transparent set) (s : List Char) :
    (percentEncode set s).head?.any Text.isHexDigit = s.head?.any Text.isHexDigit := by
  cases s with
  | nil => rfl
  | cons c s =>
      have hencode : percentEncode set (c :: s) = encodeChar set c ++ percentEncode set s := rfl
      by_cases hc : Text.isHexDigit c = true
      · rw [hencode, encodeChar_of_kept hset (.inr hc)]
        rfl
      · rw [hencode, encodeChar]
        split
        · cases hbytes : Text.Utf8.encodeChar c with
          | nil => exact absurd hbytes (Text.Utf8.encodeChar_ne_nil c)
          | cons b rest => simp [encodeByte, hc, show Text.isHexDigit '%' = false by decide]
        · rfl

theorem startsHexPair_percentEncode (hset : Transparent set) (s : List Char) :
    startsHexPair (percentEncode set s) = startsHexPair s := by
  cases s with
  | nil => rfl
  | cons c s =>
      by_cases hc : Text.isHexDigit c = true
      · have hencode : percentEncode set (c :: s) = c :: percentEncode set s := by
          simp only [percentEncode, List.flatMap_cons, encodeChar_of_kept hset (.inr hc)]
          rfl
        rw [hencode, startsHexPair_cons, startsHexPair_cons, head_percentEncode hset]
      · have hfirst : Text.isHexDigit c = false := Bool.eq_false_iff.2 hc
        have hhead := head_percentEncode hset (c :: s)
        cases hencoded : percentEncode set (c :: s) with
        | nil =>
            rw [startsHexPair_cons, hfirst]
            rfl
        | cons d t =>
            have hd : Text.isHexDigit d = false := by simpa [hencoded, hfirst] using hhead
            rw [startsHexPair_cons, startsHexPair_cons, hd, hfirst]
            rfl

theorem percentDecode_percentEncode (hset : Transparent set) (s : List Char) :
    percentDecode (percentEncode set s) = percentDecode s := by
  induction s using escape_induction with
  | nil => rfl
  | escape a b s ha hb ih =>
      have hencode : percentEncode set ('%' :: a :: b :: s) =
          '%' :: a :: b :: percentEncode set s := by
        simp only [percentEncode, List.flatMap_cons, encodeChar_of_kept hset (.inl rfl),
          encodeChar_of_kept hset (.inr ha), encodeChar_of_kept hset (.inr hb)]
        rfl
      rw [hencode, percentDecode_escape ha hb, percentDecode_escape ha hb, ih]
  | percent s hs ih =>
      have hencode : percentEncode set ('%' :: s) = '%' :: percentEncode set s := by
        simp only [percentEncode, List.flatMap_cons, encodeChar_of_kept hset (.inl rfl)]
        rfl
      rw [hencode, percentDecode_percent ((startsHexPair_percentEncode hset s).trans hs),
        percentDecode_percent hs, ih]
  | plain c s hc ih =>
      have hencode : percentEncode set (c :: s) = encodeChar set c ++ percentEncode set s := rfl
      rw [hencode, percentDecode_encodeChar hc, percentDecode_cons hc, ih]

end Reconcile.Url
