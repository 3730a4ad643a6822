import Mathlib.Data.List.TakeDrop
import Reconcile.Pattern.Syntax

namespace Reconcile.Pattern

def closing : List Char := [')', '$']

/-- What is read from a text is read, in the one way or the other, from the text with this put
behind it, which is then left behind the rest. -/
def Carries {α : Type} (read read' : List Char → Option (α × List Char)) : Prop :=
  ∀ s a rest, read s = some (a, rest) → read' (s ++ closing) = some (a, rest ++ closing)

namespace Carries

variable {α β : Type} {read read' : List Char → Option (α × List Char)}

theorem keep (a : α) : Carries (fun s => some (a, s)) fun s => some (a, s) := by
  rintro s a rest ⟨⟩
  rfl

theorem map (h : Carries read read') (f : α → β) :
    Carries (fun s => (read s).map fun p => (f p.1, p.2)) fun s =>
      (read' s).map fun p => (f p.1, p.2) := by
  intro s b rest hs
  obtain ⟨⟨a, more⟩, ha, hs⟩ := Option.map_eq_some_iff.1 hs
  cases hs
  exact Option.map_eq_some_iff.2 ⟨_, h s a more ha, rfl⟩

end Carries

section Text

variable {p : Char → Bool} {s rest before : List Char} {c x : Char}

theorem exists_of_cons_closing (hx : x ≠ ')') (h : s ++ closing = x :: rest) :
    ∃ cs, s = x :: cs ∧ rest = cs ++ closing := by
  cases s with
  | nil => exact absurd (List.cons.inj h).1.symm hx
  | cons c cs =>
      obtain ⟨rfl, rfl⟩ := List.cons.inj h
      exact ⟨cs, rfl, rfl⟩

theorem not_cons_closing (hx : x ≠ ')') (h : ∀ cs, s ≠ x :: cs) (cs : List Char) :
    s ++ closing ≠ x :: cs := by
  intro heq
  obtain ⟨cs, hs, _⟩ := exists_of_cons_closing hx heq
  exact h cs hs

theorem head?_closing (hx : x ≠ ')') : (s ++ closing).head? = some x ↔ s.head? = some x := by
  cases s with
  | nil => simpa [closing] using hx.symm
  | cons c cs => rfl

theorem takeWhile_closing (h : p ')' = false) : (s ++ closing).takeWhile p = s.takeWhile p := by
  induction s with
  | nil => simp [closing, h]
  | cons c cs ih =>
      rw [List.cons_append, List.takeWhile_cons, List.takeWhile_cons, ih]

theorem dropWhile_closing (h : p ')' = false) :
    (s ++ closing).dropWhile p = s.dropWhile p ++ closing := by
  induction s with
  | nil => simp [closing, h]
  | cons c cs ih =>
      rw [List.cons_append, List.dropWhile_cons, List.dropWhile_cons, ih]
      split <;> rfl

theorem span_closing (h : s.span p = (before, c :: rest)) :
    (s ++ closing).span p = (before, c :: (rest ++ closing)) := by
  rw [List.span_eq_takeWhile_dropWhile, Prod.mk.injEq] at h ⊢
  obtain ⟨rfl, hrest⟩ := h
  have hmore : (s.dropWhile p).isEmpty = false := by rw [hrest]; rfl
  have htaken : (s.takeWhile p).length ≠ s.length := by
    intro heq
    have hlength := congrArg List.length (s.takeWhile_append_dropWhile (p := p))
    rw [List.length_append, heq, hrest, List.length_cons] at hlength
    lia
  rw [List.dropWhile_append, hmore, List.takeWhile_append, if_neg htaken, hrest]
  exact ⟨rfl, rfl⟩

def numbered? (digits rest : List Char) : Option (Char × List Char) :=
  if digits.isEmpty || !digits.all Text.isHexDigit then none
  else
    let n := digits.foldl (fun n c => n * 16 + Text.hexValue c) 0
    if n.isValidChar then some (Char.ofNat n, rest) else none

theorem carries_numbered? (digits : List Char) : Carries (numbered? digits) (numbered? digits) := by
  intro s a rest h
  unfold numbered? at h ⊢
  split at h
  · cases h
  · next hdigits =>
    rw [if_neg hdigits]
    dsimp only at h ⊢
    split at h
    · next hvalid =>
      cases h
      rw [if_pos hvalid]
    · cases h

theorem codePoint?_eq (width : Nat) (s : List Char) :
    codePoint? width s =
      match s with
      | '\x7b' :: cs =>
          match cs.span (· != '\x7d') with
          | (digits, _ :: rest) => numbered? digits rest
          | (_, []) => none
      | cs => if cs.length < width then none else numbered? (cs.take width) (cs.drop width) := rfl

theorem carries_codePoint? (width : Nat) : Carries (codePoint? width) (codePoint? width) := by
  intro s a rest h
  rw [codePoint?_eq] at h ⊢
  split at h
  · split at h
    · next hspan =>
      rw [List.cons_append]
      simp only [span_closing hspan]
      exact carries_numbered? _ _ _ _ h
    · cases h
  · next hopen =>
    split at h
    · cases h
    · next hlong =>
      have hle := Nat.not_lt.1 hlong
      have hstill : ¬ (s ++ closing).length < width := by
        rw [List.length_append]
        lia
      split
      · next heq => exact absurd heq (not_cons_closing (by decide) hopen _)
      · rw [if_neg hstill, List.take_append_of_le_length hle, List.drop_append_of_le_length hle]
        exact carries_numbered? _ _ _ _ h

theorem carries_property? (negated : Bool) : Carries (property? negated) (property? negated) := by
  intro s a rest h
  unfold property? at h
  split at h
  · split at h
    · next hspan =>
      simp only [Option.bind_eq_bind, Option.bind_some, Option.bind_eq_some_iff] at h
      obtain ⟨cls, hcls, h⟩ := h
      cases h
      unfold property?
      simp only [List.cons_append, span_closing hspan, Option.bind_eq_bind, Option.bind_some, hcls]
      rfl
    · cases h
  · next hopen =>
    simp only [Option.bind_eq_bind, Option.bind_some, Option.bind_eq_some_iff] at h
    obtain ⟨cls, hcls, h⟩ := h
    cases h
    unfold property?
    simp only [List.cons_append, Option.bind_eq_bind, Option.bind_some, hcls]
    rfl
  · cases h

def isWordMark (c : Char) : Bool := c.isAlpha || c == '-'

theorem boundary?_of_not_braces (h : ∀ c cs, s = '\x7b' :: c :: cs → isWordMark c = false) :
    boundary? s = some (.wordBoundary .word, s) := by
  unfold boundary?
  dsimp only
  split
  · next c cs =>
    rw [if_neg]
    exact Bool.not_eq_true _ ▸ h c cs rfl
  · rfl

theorem carries_boundary? : Carries boundary? boundary? := by
  intro s a rest h
  by_cases hbraces : ∃ c cs, s = '\x7b' :: c :: cs ∧ isWordMark c = true
  · obtain ⟨c, cs, rfl, hc⟩ := hbraces
    have hif : (c.isAlpha || c == '-') = true := hc
    unfold boundary? at h ⊢
    simp only [hif, if_true] at h
    simp only [List.cons_append, hif, if_true]
    split at h
    · next name more hspan =>
      have hmore := span_closing hspan
      rw [List.cons_append] at hmore
      simp only [hmore]
      generalize String.ofList name = word at h ⊢
      split at h <;> cases h <;> rfl
    · cases h
  · have hnot : ∀ c cs, s = '\x7b' :: c :: cs → isWordMark c = false := by
      intro c cs hs
      cases hc : isWordMark c with
      | false => rfl
      | true => exact absurd ⟨c, cs, hs, hc⟩ hbraces
    rw [boundary?_of_not_braces hnot] at h
    cases h
    -- A brace at the very end is followed by the parenthesis, which begins no name either.
    apply boundary?_of_not_braces
    intro c cs hs
    match s, hs with
    | [], hs => cases hs
    | ['\x7b'], hs =>
        cases hs
        decide
    | _ :: c' :: cs', hs =>
        cases hs
        exact hnot _ _ rfl

theorem carries_escape? : Carries escape? escape? := by
  intro s a rest h
  cases s with
  | nil => cases h
  | cons c cs =>
      rw [List.cons_append]
      unfold escape? at h ⊢
      cases hletter : letterClass? c with
      | some x =>
          simp only [hletter] at h ⊢
          cases h
          rfl
      | none =>
          simp only [hletter] at h ⊢
          by_cases hplain : isEscapable c
          · rw [if_pos hplain] at h ⊢
            cases h
            rfl
          · rw [if_neg hplain] at h ⊢
            split at h <;> try exact Carries.keep _ _ _ _ h
            · exact (carries_codePoint? 2).map _ _ _ _ h
            · exact (carries_codePoint? 4).map _ _ _ _ h
            · exact (carries_codePoint? 8).map _ _ _ _ h
            · exact (carries_property? false).map _ _ _ _ h
            · exact (carries_property? true).map _ _ _ _ h
            · exact carries_boundary?.map _ _ _ _ h
            · cases h

theorem carries_number? : Carries number? number? := by
  intro s n rest h
  unfold number? at h ⊢
  dsimp only at h ⊢
  rw [dropWhile_closing (by decide), takeWhile_closing (by decide)]
  split at h
  · cases h
  · next hfits =>
    cases h
    have htaken := (List.takeWhile_prefix Char.isDigit (l := s.dropWhile Text.isBlank)).length_le
    rw [if_neg hfits, List.drop_append_of_le_length htaken, dropWhile_closing (by decide)]

theorem carries_bounds? : Carries bounds? bounds? := by
  intro s b rest h
  unfold bounds? at h ⊢
  rw [Option.bind_eq_bind, Option.bind_eq_some_iff] at h
  obtain ⟨⟨least, more⟩, hleast, h⟩ := h
  rw [carries_number? s least more hleast, Option.bind_eq_bind, Option.bind_some]
  dsimp only at h ⊢
  split at h
  · cases h
    rfl
  · cases h
    rfl
  · next hbrace =>
    obtain ⟨⟨most, more⟩, hmost, h⟩ := Option.bind_eq_some_iff.1 h
    rw [List.cons_append]
    split
    · next heq => cases heq
    · next heq =>
      rw [List.cons.injEq] at heq
      exact absurd heq.2 (not_cons_closing (by decide) hbrace _)
    · next heq =>
      rw [List.cons.injEq] at heq
      rw [← heq.2, carries_number? _ most more hmost, Option.bind_some]
      dsimp only at h ⊢
      split at h
      · split at h
        · next hle =>
          cases h
          rw [List.cons_append]
          exact if_pos hle
        · cases h
      · cases h
    · next hcomma => exact absurd rfl (hcomma _)
  · cases h

theorem carries_groupName? : Carries groupName? groupName? := by
  intro s n rest h
  unfold groupName? at h ⊢
  split at h
  · next hspan =>
    rw [span_closing hspan]
    split at h
    · next hname =>
      cases h
      simp only [hname, if_true]
    · cases h
  · cases h

theorem carries_flags? (seen : List Char) (flags : Flags) :
    Carries (flags? seen flags) (flags? seen flags) := by
  intro s f rest h
  induction s generalizing seen flags with
  | nil => cases h
  | cons c cs ih =>
      rw [List.cons_append]
      unfold flags? at h ⊢
      split at h
      · next hend =>
        rw [if_pos hend]
        split at h
        · cases h
        · next hseen =>
          cases h
          rw [if_neg hseen]
          rfl
      · next hend =>
        rw [if_neg hend]
        split at h
        · cases h
        · next hnew =>
          rw [if_neg hnew]
          split at h
          · next hhyphen =>
            rw [if_pos hhyphen]
            exact ih _ _ h
          · next hhyphen =>
            rw [if_neg hhyphen]
            split at h
            · next hset =>
              exact ih _ _ h
            · cases h

end Text

end Reconcile.Pattern
