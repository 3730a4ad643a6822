import Reconcile.Proofs.Text.Pieces
import Reconcile.Proofs.Url.Percent
import Reconcile.Url.Basic

namespace Reconcile.Url

variable {seg : List Char} {segs more done : List (List Char)} {n : Nat}

def weight (path : List (List Char)) : Nat :=
  (path.map fun seg => (percentDecode seg).length + 1).sum

theorem weight_cons (seg : List Char) (segs : List (List Char)) :
    weight (seg :: segs) = (percentDecode seg).length + 1 + weight segs := rfl

theorem weight_append (segs more : List (List Char)) :
    weight (segs ++ more) = weight segs + weight more := by
  simp [weight]

theorem weight_reverse (segs : List (List Char)) : weight segs.reverse = weight segs := by
  simp [weight]

theorem toLower_cases (c : Char) :
    c.toLower = c ∨ 97 ≤ c.toLower.toNat ∧ c.toLower.toNat = c.toNat + 32 := by
  unfold Char.toLower
  split
  · next hupper =>
      have hlow : 65 ≤ c.toNat := UInt32.le_iff_toNat_le.1 hupper.1
      have hhigh : c.toNat ≤ 90 := UInt32.le_iff_toNat_le.1 hupper.2
      have hshift : (c.val + ('a'.val - 'A'.val)).toNat = c.toNat + 32 := by
        rw [UInt32.toNat_add]
        exact Nat.mod_eq_of_lt (show c.toNat + 32 < 2 ^ 32 by omega)
      refine .inr ⟨?_, hshift⟩
      show 97 ≤ (c.val + ('a'.val - 'A'.val)).toNat
      omega
  · exact .inl rfl

theorem eq_of_toLower {c d : Char} (h : c.toLower = d) (hd : d.toNat < 97) : c = d := by
  rcases toLower_cases c with hsame | ⟨hlower, _⟩
  · rw [← hsame, h]
  · rw [h] at hlower
    omega

def BeginsWithDot (seg rest : List Char) : Prop :=
  seg.map Char.toLower = '.' :: rest ∨ seg.map Char.toLower = '%' :: '2' :: 'e' :: rest

theorem BeginsWithDot.percentDecode {rest : List Char} (h : BeginsWithDot seg rest) :
    ∃ t, t.map Char.toLower = rest ∧ percentDecode seg = 0x2E :: percentDecode t := by
  rcases h with h | h
  · obtain ⟨c, t, rfl, hc, ht⟩ := List.map_eq_cons_iff.1 h
    have hdot := eq_of_toLower hc (by decide)
    subst hdot
    exact ⟨t, ht, percentDecode_cons (by decide)⟩
  · obtain ⟨a, t, rfl, ha, h⟩ := List.map_eq_cons_iff.1 h
    obtain ⟨b, t, rfl, hb, h⟩ := List.map_eq_cons_iff.1 h
    obtain ⟨c, t, rfl, hc, ht⟩ := List.map_eq_cons_iff.1 h
    have hpercent := eq_of_toLower ha (by decide)
    have htwo := eq_of_toLower hb (by decide)
    have hletter : c = 'e' ∨ c = 'E' := by
      rcases toLower_cases c with hsame | ⟨_, hlower⟩
      · exact .inl (hsame.symm.trans hc)
      · have hvalue : 101 = c.toNat + 32 := by rwa [hc] at hlower
        have hnat : c.toNat = 69 := by omega
        exact .inr (Char.toNat_inj.1 hnat)
    subst hpercent htwo
    refine ⟨t, ht, ?_⟩
    rcases hletter with rfl | rfl
    · exact percentDecode_escape (by decide) (by decide)
    · exact percentDecode_escape (by decide) (by decide)

theorem dots_cases (h : dots seg = some n) :
    n = 1 ∧ BeginsWithDot seg [] ∨
      n = 2 ∧ (BeginsWithDot seg ['.'] ∨ BeginsWithDot seg ['%', '2', 'e']) := by
  have hlower : ∀ {text : String}, String.ofList (seg.map Char.toLower) = text →
      seg.map Char.toLower = text.toList := by
    rintro text rfl
    rw [String.toList_ofList]
  unfold dots at h
  split at h
  all_goals cases h
  · next htext => exact .inl ⟨rfl, .inl (hlower htext)⟩
  · next htext => exact .inl ⟨rfl, .inr (hlower htext)⟩
  · next htext => exact .inr ⟨rfl, .inl (.inl (hlower htext))⟩
  · next htext => exact .inr ⟨rfl, .inr (.inl (hlower htext))⟩
  · next htext => exact .inr ⟨rfl, .inl (.inr (hlower htext))⟩
  · next htext => exact .inr ⟨rfl, .inr (.inr (hlower htext))⟩

theorem percentDecode_of_dots (h : dots seg = some n) :
    percentDecode seg = [0x2E] ∨ percentDecode seg = [0x2E, 0x2E] := by
  have hnil : ∀ {t}, t.map Char.toLower = [] → percentDecode t = [] := by
    intro t ht
    rw [List.map_eq_nil_iff.1 ht]
    rfl
  rcases dots_cases h with ⟨_, hone⟩ | ⟨_, htwo⟩
  · obtain ⟨t, ht, hseg⟩ := hone.percentDecode
    rw [hseg, hnil ht]
    exact .inl rfl
  · obtain ⟨t, ht, hseg⟩ : ∃ t, BeginsWithDot t [] ∧
        percentDecode seg = 0x2E :: percentDecode t := by
      rcases htwo with htwo | htwo
      · obtain ⟨t, ht, hseg⟩ := htwo.percentDecode
        exact ⟨t, .inl ht, hseg⟩
      · obtain ⟨t, ht, hseg⟩ := htwo.percentDecode
        exact ⟨t, .inr ht, hseg⟩
    obtain ⟨t', ht', hsecond⟩ := ht.percentDecode
    rw [hseg, hsecond, hnil ht']
    exact .inr rfl

theorem length_percentDecode_of_dots (h : dots seg = some n) : 0 < (percentDecode seg).length := by
  rcases percentDecode_of_dots h with hone | htwo
  · simp [hone]
  · simp [htwo]

def enter (done : List (List Char)) (seg : List Char) : List (List Char) :=
  match dots seg with
  | some 1 => done
  | some _ => dropLastSegment done
  | none => seg :: done

theorem enter_of_plain (done : List (List Char)) (h : dots seg = none) :
    enter done seg = seg :: done := by
  simp [enter, h]

theorem resolveDots_cons (done : List (List Char)) (seg : List Char) (hne : segs ≠ []) :
    resolveDots done (seg :: segs) = resolveDots (enter done seg) segs := by
  cases segs with
  | nil => exact absurd rfl hne
  | cons next rest =>
      cases hdots : dots seg with
      | none => simp [resolveDots, enter, hdots]
      | some n => by_cases hn : n = 1 <;> simp [resolveDots, enter, hdots, hn]

theorem resolveDots_last (done : List (List Char)) (seg : List Char) :
    resolveDots done [seg] =
      ((if (dots seg).isSome then [[]] else []) ++ enter done seg).reverse := by
  cases hdots : dots seg with
  | none => simp [resolveDots, enter, hdots]
  | some n => by_cases hn : n = 1 <;> simp [resolveDots, enter, hdots, hn]

theorem resolveDots_append (done segs : List (List Char)) (hne : more ≠ []) :
    resolveDots done (segs ++ more) = resolveDots (segs.foldl enter done) more := by
  induction segs generalizing done with
  | nil => rfl
  | cons seg segs ih =>
      have hrest : segs ++ more ≠ [] := by simp [hne]
      rw [List.cons_append, resolveDots_cons done seg hrest, ih, List.foldl_cons]

theorem resolveDots_of_plain (done : List (List Char)) (hne : segs ≠ [])
    (h : ∀ seg ∈ segs, dots seg = none) : resolveDots done segs = done.reverse ++ segs := by
  induction segs generalizing done with
  | nil => exact absurd rfl hne
  | cons seg segs ih =>
      have hseg := h seg List.mem_cons_self
      by_cases hlast : segs = []
      · subst hlast
        simp [resolveDots_last, enter_of_plain done hseg, hseg]
      · have hrest := ih (seg :: done) hlast fun other hother =>
          h other (List.mem_cons_of_mem seg hother)
        rw [resolveDots_cons done seg hlast, enter_of_plain done hseg, hrest, List.reverse_cons,
          List.append_assoc, List.singleton_append]

theorem weight_dropLastSegment_le (done : List (List Char)) :
    weight (dropLastSegment done) ≤ weight done := by
  cases done with
  | nil => exact Nat.le_refl _
  | cons seg before =>
      show weight (if isDrive seg then seg :: before else before) ≤ _
      split
      · exact Nat.le_refl _
      · rw [weight_cons]
        omega

theorem weight_enter_of_dots (done : List (List Char)) (h : dots seg = some n) :
    weight (enter done seg) ≤ weight done := by
  have hdropped := weight_dropLastSegment_le done
  by_cases hn : n = 1
  · simp [enter, h, hn]
  · simpa [enter, h, hn] using hdropped

theorem weight_enter_le (done : List (List Char)) (seg : List Char) :
    weight (enter done seg) ≤ weight done + weight [seg] := by
  cases hdots : dots seg with
  | none =>
      rw [enter_of_plain done hdots, weight_cons, weight_cons]
      exact Nat.le_of_eq (Nat.add_comm _ _)
  | some n => exact Nat.le_add_right_of_le (weight_enter_of_dots done hdots)

theorem weight_resolveDots_last_lt (done : List (List Char)) (h : dots seg = some n) :
    weight (resolveDots done [seg]) < weight done + weight [seg] := by
  have hentered := weight_enter_of_dots done h
  have hseg := length_percentDecode_of_dots h
  have hempty : weight [[]] = 1 := rfl
  have hweight : weight [seg] = (percentDecode seg).length + 1 := rfl
  rw [resolveDots_last, weight_reverse, weight_append, h, Option.isSome_some, if_pos rfl]
  omega

theorem weight_resolveDots_le (done : List (List Char)) (hne : segs ≠ []) :
    weight (resolveDots done segs) ≤ weight done + weight segs := by
  induction segs generalizing done with
  | nil => exact absurd rfl hne
  | cons seg segs ih =>
      by_cases hlast : segs = []
      · subst hlast
        cases hdots : dots seg with
        | none =>
            have hentered := weight_enter_le done seg
            simpa [resolveDots_last, hdots, weight_reverse] using hentered
        | some n => exact Nat.le_of_lt (weight_resolveDots_last_lt done hdots)
      · have hrest := ih (enter done seg) hlast
        have hentered := weight_enter_le done seg
        have hsplit := weight_append [seg] segs
        rw [List.singleton_append] at hsplit
        rw [resolveDots_cons done seg hlast]
        omega

theorem weight_resolveDots_lt (done : List (List Char)) (hmem : seg ∈ segs)
    (h : dots seg = some n) :
    weight (resolveDots done segs) < weight done + weight segs := by
  induction segs generalizing done with
  | nil => cases hmem
  | cons first segs ih =>
      have hsplit := weight_append [first] segs
      rw [List.singleton_append] at hsplit
      by_cases hlast : segs = []
      · subst hlast
        rw [List.mem_singleton.1 hmem] at h
        exact weight_resolveDots_last_lt done h
      · rw [resolveDots_cons done first hlast]
        rcases List.mem_cons.1 hmem with rfl | hmem
        · have hentered := weight_enter_of_dots done h
          have hrest := weight_resolveDots_le (enter done seg) hlast
          have hseg : 0 < weight [seg] := Nat.succ_pos _
          omega
        · have hentered := weight_enter_le done first
          have hrest := ih (enter done first) hmem
          omega

end Reconcile.Url
