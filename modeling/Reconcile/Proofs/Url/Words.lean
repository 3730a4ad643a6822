import Reconcile.Proofs.Url.Confined

namespace Reconcile

def isWordChar (c : Char) : Bool := c.isAlphanum || c == '-' || c == '_'

def IsWord (text : String) : Prop := text.toList ≠ [] ∧ ∀ c ∈ text.toList, isWordChar c = true

instance (text : String) : Decidable (IsWord text) :=
  decidable_of_iff (text.toList ≠ [] ∧ text.toList.all isWordChar = true) (by simp [IsWord])

theorem toNat_of_isWordChar {c : Char} (h : isWordChar c = true) :
    (48 ≤ c.toNat ∧ c.toNat ≤ 57) ∨ (65 ≤ c.toNat ∧ c.toNat ≤ 90) ∨
      (97 ≤ c.toNat ∧ c.toNat ≤ 122) ∨ c = '-' ∨ c = '_' := by
  have hdigit (h : c.isDigit = true) : 48 ≤ c.toNat ∧ c.toNat ≤ 57 :=
    (Bool.and_eq_true_iff.1 h).imp of_decide_eq_true of_decide_eq_true
  have hupper (h : c.isUpper = true) : 65 ≤ c.toNat ∧ c.toNat ≤ 90 := of_decide_eq_true h
  have hlower (h : c.isLower = true) : 97 ≤ c.toNat ∧ c.toNat ≤ 122 :=
    (Bool.and_eq_true_iff.1 h).imp of_decide_eq_true of_decide_eq_true
  simp only [isWordChar, Bool.or_eq_true, beq_iff_eq] at h
  rcases h with (halphanum | h) | h
  · rcases Bool.or_eq_true_iff.1 halphanum with halpha | h
    · rcases Bool.or_eq_true_iff.1 halpha with h | h
      · exact .inr (.inl (hupper h))
      · exact .inr (.inr (.inl (hlower h)))
    · exact .inl (hdigit h)
  · exact .inr (.inr (.inr (.inl h)))
  · exact .inr (.inr (.inr (.inr h)))

namespace Url

variable {s : List Char} {c : Char}

def InWordPath (c : Char) : Prop := c = '/' ∨ isWordChar c = true

instance (c : Char) : Decidable (InWordPath c) := inferInstanceAs (Decidable (_ ∨ _))

theorem InWordPath.bounds (h : InWordPath c) : 45 ≤ c.toNat ∧ c.toNat ≤ 122 := by
  rcases h with rfl | h
  · decide
  · rcases toNat_of_isWordChar h with h | h | h | rfl | rfl
    · omega
    · omega
    · omega
    · decide
    · decide

theorem InWordPath.encodeChar (h : InWordPath c) : encodeChar inPathSet c = [c] := by
  obtain ⟨hlow, hhigh⟩ := h.bounds
  have hkept : inPathSet c = false := by
    rw [Bool.eq_false_iff]
    intro hset
    simp only [inPathSet, inFragmentSet, isControlChar, Bool.or_eq_true, beq_iff_eq,
      decide_eq_true_eq] at hset
    have hcontrol : ¬ (c.toNat < 32 ∨ c.toNat = 127) := by omega
    simp only [hcontrol, false_or] at hset
    repeat' rcases hset with hset | hset
    all_goals exact absurd h (by decide)
  have hascii : Text.isAscii c = true := decide_eq_true (show c.toNat < 128 by omega)
  simp [Url.encodeChar, hkept, hascii]

theorem inWordPath_of_words {words : List String} (h : ∀ word ∈ words, IsWord word) :
    ∀ c ∈ Text.join ['/'] (words.map String.toList), InWordPath c := by
  intro c hc
  rcases Text.mem_join hc with hslash | ⟨piece, hpiece, hc⟩
  · exact .inl (List.mem_singleton.1 hslash)
  · obtain ⟨word, hword, rfl⟩ := List.mem_map.1 hpiece
    exact .inr ((h word hword).2 c hc)

theorem percentEncode_of_wordPath (h : ∀ c ∈ s, InWordPath c) : percentEncode inPathSet s = s := by
  induction s with
  | nil => rfl
  | cons c s ih =>
      obtain ⟨hc, hs⟩ := List.forall_mem_cons.1 h
      rw [percentEncode, List.flatMap_cons, hc.encodeChar]
      exact congrArg (c :: ·) (ih hs)

theorem hasEscape_of_not_mem (h : '%' ∉ s) : hasEscape s = false := by
  induction s with
  | nil => rfl
  | cons c s ih =>
      rw [List.mem_cons, not_or] at h
      rw [hasEscape_cons (Ne.symm h.1), ih h.2]

theorem plain_of_wordPath (h : ∀ c ∈ s, InWordPath c) : Plain s := by
  have hnot : ∀ {c}, ¬ InWordPath c → c ∉ s := fun hc hmem => hc (h _ hmem)
  refine ⟨hasEscape_of_not_mem (hnot (by decide)), ?_, ?_⟩
  · rintro rfl
    exact hnot (c := '.') (by decide) (by decide)
  · rintro rfl
    exact hnot (c := '.') (by decide) (by decide)

theorem Root.pathText_of_wordPath {root : String} {u : Url} (hroot : Root root u)
    (h : ∀ c ∈ s, InWordPath c) :
    ∃ v, parse (root ++ String.ofList s) = .ok v ∧
      v.pathText = (u.path.dropLast.flatMap ('/' :: ·)) ++ '/' :: s := by
  have hpieces : ∀ piece ∈ Text.splitOn '/' s, ∀ c ∈ piece, InWordPath c :=
    (Text.forall_mem_iff_splitOn (.inl rfl)).1 h
  have hfree : ∀ c ∈ s, c ∉ marks := by
    intro c hc hmark
    have hword := h c hc
    simp only [marks, List.mem_cons, List.not_mem_nil, or_false] at hmark
    rcases hmark with rfl | rfl | rfl | rfl | rfl | rfl
    all_goals exact absurd hword (by decide)
  have hends : EndsVisibly s := by
    intro last hlast
    have hlow := (h last (List.mem_of_mem_getLast? hlast)).bounds.1
    omega
  have hencoded : (Text.splitOn '/' s).map (percentEncode inPathSet) = Text.splitOn '/' s := by
    rw [List.map_congr_left fun piece hpiece => percentEncode_of_wordPath (hpieces piece hpiece),
      List.map_id']
  refine ⟨_, hroot.parse_plain hfree (fun piece hpiece => plain_of_wordPath (hpieces piece hpiece))
    hends, ?_⟩
  rw [hencoded, pathText, List.flatMap_append,
    Text.flatMap_cons_eq_join (Text.splitOn_ne_nil '/' s), Text.join_splitOn]

end Url

end Reconcile
