import Mathlib.Algebra.GroupWithZero.Nat
import Reconcile.Text.Search

namespace Reconcile.Text

variable {sep : Char} {s a b piece : List Char} {pieces : List (List Char)}

theorem splitOn_append_sep (a b : List Char) :
    splitOn sep (a ++ sep :: b) = splitOn sep a ++ splitOn sep b := by
  induction a with
  | nil => simp [splitOn]
  | cons c cs ih =>
      by_cases hc : c = sep
      · simp [splitOn, hc, ih]
      · simp only [List.cons_append, splitOn, hc, if_false, ih]
        cases hcs : splitOn sep cs with
        | nil => exact absurd hcs (splitOn_ne_nil sep cs)
        | cons first rest => rfl

theorem append_sep_inj {t : List Char} (hs : sep ∉ s) (ht : sep ∉ t) :
    a ++ sep :: s = b ++ sep :: t ↔ a = b ∧ s = t := by
  constructor
  · intro h
    have hpieces := congrArg (splitOn sep) h
    rw [splitOn_append_sep, splitOn_append_sep, splitOn_of_not_mem hs, splitOn_of_not_mem ht,
      ← List.concat_eq_append, ← List.concat_eq_append, List.concat_inj] at hpieces
    have hlast : s = t := hpieces.2
    subst hlast
    exact ⟨List.append_cancel_right h, rfl⟩
  · rintro ⟨rfl, rfl⟩
    rfl

theorem splitOn_join (hne : pieces ≠ []) (h : ∀ piece ∈ pieces, sep ∉ piece) :
    splitOn sep (join [sep] pieces) = pieces := by
  induction pieces with
  | nil => exact absurd rfl hne
  | cons first rest ih =>
      have hfirst := splitOn_of_not_mem (h first List.mem_cons_self)
      cases rest with
      | nil => exact hfirst
      | cons second rest =>
          have hrest := ih (List.cons_ne_nil _ _) fun piece hpiece =>
            h piece (List.mem_cons_of_mem _ hpiece)
          simp only [join, List.append_assoc, List.singleton_append]
          rw [splitOn_append_sep, hfirst, hrest]
          rfl

theorem join_eq_intercalate (sep : List Char) (pieces : List (List Char)) :
    join sep pieces = sep.intercalate pieces := by
  induction pieces with
  | nil => rfl
  | cons first rest ih =>
      cases rest with
      | nil => simp [join]
      | cons second rest =>
          rw [join, ih, List.intercalate_cons_cons]
          exact List.cons_ne_nil _ _

theorem join_concat (hne : pieces ≠ []) (last : List Char) :
    join [sep] (pieces ++ [last]) = join [sep] pieces ++ sep :: last := by
  induction pieces with
  | nil => exact absurd rfl hne
  | cons first rest ih =>
      cases rest with
      | nil => simp [join]
      | cons second rest =>
          have hrest := ih (List.cons_ne_nil _ _)
          simp only [List.cons_append, join, List.append_assoc] at hrest ⊢
          rw [hrest]

theorem forall_mem_iff_splitOn {p : Char → Prop} (hsep : p sep) :
    (∀ c ∈ s, p c) ↔ ∀ piece ∈ splitOn sep s, ∀ c ∈ piece, p c := by
  induction s with
  | nil => simp [splitOn]
  | cons c cs ih =>
      by_cases hc : c = sep
      · simp [splitOn, hc, hsep, ih]
      · simp only [splitOn, hc, if_false, List.forall_mem_cons, ih]
        cases hcs : splitOn sep cs with
        | nil => exact absurd hcs (splitOn_ne_nil sep cs)
        | cons first rest => simp [and_assoc]

theorem mem_join {c : Char} {sep : List Char} (h : c ∈ join sep pieces) :
    c ∈ sep ∨ ∃ piece ∈ pieces, c ∈ piece := by
  induction pieces with
  | nil => cases h
  | cons first rest ih =>
      cases rest with
      | nil => exact Or.inr ⟨first, List.mem_cons_self, h⟩
      | cons second rest =>
          simp only [join, List.mem_append] at h
          rcases h with (hfirst | hsep) | hrest
          · exact Or.inr ⟨first, List.mem_cons_self, hfirst⟩
          · exact Or.inl hsep
          · rcases ih hrest with hsep | ⟨piece, hpiece, hc⟩
            · exact Or.inl hsep
            · exact Or.inr ⟨piece, List.mem_cons_of_mem _ hpiece, hc⟩

theorem length_splitOn (sep : Char) (s : List Char) :
    (splitOn sep s).length = s.count sep + 1 := by
  induction s with
  | nil => rfl
  | cons c cs ih =>
      by_cases hc : c = sep
      · simp [splitOn, hc, ih]
      · simp only [splitOn, hc, if_false]
        cases hcs : splitOn sep cs with
        | nil => exact absurd hcs (splitOn_ne_nil sep cs)
        | cons first rest =>
            rw [hcs] at ih
            simpa [hc] using ih

theorem count_join (hne : pieces ≠ []) :
    (join [sep] pieces).count sep + 1 = (pieces.map (·.count sep)).sum + pieces.length := by
  induction pieces with
  | nil => exact absurd rfl hne
  | cons first rest ih =>
      cases rest with
      | nil => simp [join]
      | cons second rest =>
          have hrest := ih (List.cons_ne_nil _ _)
          simp only [join, List.count_append, List.count_singleton_self, List.map_cons,
            List.sum_cons, List.length_cons] at hrest ⊢
          omega

theorem flatMap_cons_eq_join (hne : pieces ≠ []) :
    pieces.flatMap (sep :: ·) = sep :: join [sep] pieces := by
  induction pieces with
  | nil => exact absurd rfl hne
  | cons first rest ih =>
      cases rest with
      | nil => simp [join]
      | cons second rest => simpa [join] using ih (List.cons_ne_nil _ _)

theorem cut?_append (hne : piece ≠ []) (s : List Char) :
    cut? piece (piece ++ s) = some ([], s) := by
  obtain ⟨c, cs, rfl⟩ := List.exists_cons_of_ne_nil hne
  rw [List.cons_append, cut?, ← List.cons_append, after?_append]

theorem cut?_append_of_not_mem (h : sep ∉ s) (t : List Char) :
    cut? (sep :: piece) (s ++ t) = (cut? (sep :: piece) t).map fun p => (s ++ p.1, p.2) := by
  induction s with
  | nil => simp
  | cons c cs ih =>
      rw [List.mem_cons, not_or] at h
      obtain ⟨hc, hcs⟩ := h
      have hafter : after? (sep :: piece) (c :: cs ++ t) = none := by
        simp [after?, List.isPrefixOf, hc]
      rw [List.cons_append] at hafter ⊢
      rw [cut?, hafter, ih hcs, Option.map_map]
      rfl

theorem cut?_append_piece (h : sep ∉ s) (t : List Char) :
    cut? (sep :: piece) (s ++ (sep :: piece ++ t)) = some (s, t) := by
  rw [cut?_append_of_not_mem h, cut?_append (List.cons_ne_nil sep piece)]
  simp

theorem cut?_singleton_eq_some_iff {rest : List Char} :
    cut? [sep] s = some (a, rest) ↔ s = a ++ sep :: rest ∧ sep ∉ a := by
  have hcut : ∀ before after : List Char, sep ∉ before →
      cut? [sep] (before ++ sep :: after) = some (before, after) := by
    intro before after hbefore
    have hhead : cut? [sep] (sep :: after) = some ([], after) :=
      cut?_append (List.cons_ne_nil _ _) after
    rw [cut?_append_of_not_mem hbefore, hhead]
    simp
  constructor
  · intro h
    have hs : s = a ++ sep :: rest := by simpa using eq_of_cut? h
    obtain ⟨before, after, hsplit, hbefore⟩ :=
      List.eq_append_cons_of_mem (show sep ∈ s by simp [hs])
    rw [hsplit, hcut before after hbefore, Option.some.injEq, Prod.mk.injEq] at h
    exact ⟨hs, h.1 ▸ hbefore⟩
  · rintro ⟨rfl, ha⟩
    exact hcut a rest ha

theorem cut?_between (hpiece : sep ∉ piece) (hs : sep ∉ s) (hne : s ≠ piece) (t : List Char) :
    cut? (sep :: (piece ++ [sep])) (sep :: (s ++ sep :: t)) =
      (cut? (sep :: (piece ++ [sep])) (sep :: t)).map fun p => (sep :: (s ++ p.1), p.2) := by
  have hafter : after? (sep :: (piece ++ [sep])) (sep :: (s ++ sep :: t)) = none := by
    rw [after?, if_neg]
    intro hstarts
    obtain ⟨rest, hrest⟩ := List.isPrefixOf_iff_prefix.1 hstarts
    have htail : piece ++ sep :: rest = s ++ sep :: t := by simpa using hrest
    have hpieces := congrArg (splitOn sep) htail
    rw [splitOn_append_sep, splitOn_append_sep, splitOn_of_not_mem hpiece, splitOn_of_not_mem hs]
      at hpieces
    exact hne (List.cons.inj hpieces).1.symm
  rw [cut?, hafter, cut?_append_of_not_mem hs, Option.map_map]
  rfl

theorem length_le_of_cut? {before rest lead tail : List Char}
    (h : cut? piece s = some (before, rest)) (hs : s = lead ++ piece ++ tail) :
    before.length ≤ lead.length := by
  induction s generalizing before rest lead with
  | nil =>
      have hbefore := eq_of_cut? h
      simp_all
  | cons c cs ih =>
      unfold cut? at h
      split at h
      · next rest' _ =>
          simp only [Option.some.injEq, Prod.mk.injEq] at h
          rw [← h.1]
          exact Nat.zero_le _
      · next hafter =>
          obtain ⟨⟨before', rest'⟩, hcut, heq⟩ := Option.map_eq_some_iff.1 h
          simp only [Prod.mk.injEq] at heq
          cases lead with
          | nil =>
              rw [List.nil_append] at hs
              rw [hs, after?_append] at hafter
              cases hafter
          | cons d lead =>
              have hcs : cs = lead ++ piece ++ tail := by simpa using (List.cons.inj hs).2
              rw [← heq.1]
              exact Nat.succ_le_succ (ih hcut hcs)

theorem isSome_cut? (lead piece tail : List Char) :
    (cut? piece (lead ++ piece ++ tail)).isSome := by
  induction lead with
  | nil =>
      cases piece with
      | nil => cases tail <;> simp [cut?, after?]
      | cons c cs => rw [List.nil_append, cut?_append (List.cons_ne_nil c cs), Option.isSome_some]
  | cons c lead ih =>
      rw [List.cons_append, List.cons_append, cut?]
      split
      · rfl
      · rw [Option.isSome_map]
        exact ih

theorem cut?_eq_some_iff {before rest : List Char} :
    cut? piece s = some (before, rest) ↔
      s = before ++ piece ++ rest ∧
        ∀ lead tail, s = lead ++ piece ++ tail → before.length ≤ lead.length := by
  constructor
  · intro h
    exact ⟨eq_of_cut? h, fun lead tail hs => length_le_of_cut? h hs⟩
  · rintro ⟨hs, hfirst⟩
    obtain ⟨⟨a, b⟩, hcut⟩ := Option.isSome_iff_exists.1 (isSome_cut? before piece rest)
    rw [← hs] at hcut
    have hab := eq_of_cut? hcut
    have hlength : before.length = a.length :=
      Nat.le_antisymm (hfirst a b hab) (length_le_of_cut? hcut hs)
    have hsplit : before ++ (piece ++ rest) = a ++ (piece ++ b) := by
      rw [← List.append_assoc, ← List.append_assoc, ← hs, hab]
    obtain ⟨rfl, htail⟩ := List.append_inj hsplit hlength
    rw [hcut, List.append_cancel_left htail]

theorem dropEndWhile_append_replicate {p : Char → Bool} (h : p sep = true) (s : List Char)
    (n : Nat) :
    dropEndWhile p (s ++ List.replicate n sep) = dropEndWhile p s := by
  rw [dropEndWhile, dropEndWhile, List.reverse_append, List.reverse_replicate,
    List.dropWhile_append_of_pos]
  intro c hc
  rwa [List.eq_of_mem_replicate hc]

theorem dropEndWhile_of_getLast? {p : Char → Bool} (h : ∀ c ∈ s.getLast?, p c = false) :
    dropEndWhile p s = s := by
  rw [dropEndWhile, List.reverse_eq_iff]
  rw [← List.head?_reverse] at h
  cases hrev : s.reverse with
  | nil => rfl
  | cons last init =>
      rw [hrev] at h
      exact List.dropWhile_cons_of_neg (by simp [h last rfl])

end Reconcile.Text
