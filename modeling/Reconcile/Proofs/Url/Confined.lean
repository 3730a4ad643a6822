import Mathlib.Algebra.Order.BigOperators.Group.List
import Mathlib.Algebra.Order.Group.Nat
import Mathlib.Data.List.TakeWhile
import Reconcile.Proofs.Url.Root

namespace Reconcile.Url

variable {s v piece : List Char} {done segs : List (List Char)} {c : Char}

theorem length_encode_sublist (h : v.Sublist s) :
    (Text.Utf8.encode v).length ≤ (Text.Utf8.encode s).length ∧
      ((Text.Utf8.encode v).length = (Text.Utf8.encode s).length → v = s) := by
  induction h with
  | slnil => exact ⟨Nat.le_refl _, fun _ => rfl⟩
  | cons c h ih =>
      have hc := length_encodeChar_pos c
      simp only [length_encode_cons]
      exact ⟨by omega, by omega⟩
  | cons_cons c h ih =>
      simp only [length_encode_cons]
      refine ⟨by omega, fun hlength => ?_⟩
      rw [ih.2 (by omega)]

theorem sum_splitOn (s : List Char) :
    ((Text.splitOn '/' s).map fun piece => (Text.Utf8.encode piece).length + 1).sum =
      (Text.Utf8.encode s).length + 1 := by
  induction s with
  | nil => rfl
  | cons c s ih =>
      by_cases hc : c = '/'
      · subst hc
        have hslash : (Text.Utf8.encodeChar '/').length = 1 := rfl
        simp only [Text.splitOn, if_true, List.map_cons, List.sum_cons, ih, length_encode_cons,
          hslash]
        rfl
      · simp only [Text.splitOn, if_neg hc]
        cases hsplit : Text.splitOn '/' s with
        | nil => exact absurd hsplit (Text.splitOn_ne_nil '/' s)
        | cons first rest =>
            rw [hsplit, List.map_cons, List.sum_cons] at ih
            simp only [List.map_cons, List.sum_cons, length_encode_cons]
            omega

def slashed (s : List Char) : List Char := s.map fun c => if c == '\\' then '/' else c

theorem segments_eq (s : List Char) : segments s = Text.splitOn '/' (slashed s) := rfl

theorem length_encode_slashed (s : List Char) :
    (Text.Utf8.encode (slashed s)).length = (Text.Utf8.encode s).length := by
  induction s with
  | nil => rfl
  | cons c s ih =>
      have hcons : slashed (c :: s) = (if c == '\\' then '/' else c) :: slashed s := rfl
      rw [hcons, length_encode_cons, length_encode_cons, ih]
      by_cases hc : c = '\\'
      · subst hc
        rfl
      · simp [hc]

theorem slashed_of_not_mem (h : '\\' ∉ s) : slashed s = s := by
  have hsame : ∀ c ∈ s, (if c == '\\' then '/' else c) = c := by
    intro c hc
    have hne : c ≠ '\\' := by
      rintro rfl
      exact h hc
    simp [hne]
  rw [slashed, List.map_congr_left hsame, List.map_id']

theorem count_slashed (s : List Char) : (slashed s).count '/' = s.count '/' + s.count '\\' := by
  induction s with
  | nil => rfl
  | cons c s ih =>
      have hcons : slashed (c :: s) = (if c == '\\' then '/' else c) :: slashed s := rfl
      rw [hcons, List.count_cons, List.count_cons, List.count_cons, ih]
      by_cases hback : c = '\\'
      · subst hback
        simp only [beq_self_eq_true, if_true, show ('\\' == '/') = false by decide, if_false,
          Bool.false_eq_true]
        omega
      · simp only [beq_iff_eq, hback, if_false]
        omega

theorem weight_map_percentEncode (pieces : List (List Char)) :
    weight (pieces.map (percentEncode inPathSet)) =
      (pieces.map fun piece => (percentDecode piece).length + 1).sum := by
  simp [weight, Function.comp_def, percentDecode_percentEncode transparent_inPathSet]

theorem weight_segments_le (v : List Char) :
    weight ((segments v).map (percentEncode inPathSet)) ≤ (Text.Utf8.encode v).length + 1 := by
  rw [weight_map_percentEncode, ← length_encode_slashed v, ← sum_splitOn, segments_eq]
  exact List.sum_le_sum fun piece _ => Nat.succ_le_succ (length_percentDecode_le piece)

theorem weight_segments_lt (hmem : piece ∈ segments v) (hescape : hasEscape piece = true) :
    weight ((segments v).map (percentEncode inPathSet)) < (Text.Utf8.encode v).length + 1 := by
  rw [weight_map_percentEncode, ← length_encode_slashed v, ← sum_splitOn]
  exact List.sum_lt_sum _ _ (fun piece _ => Nat.succ_le_succ (length_percentDecode_le piece))
    ⟨piece, hmem, Nat.succ_lt_succ (length_percentDecode_lt hescape)⟩

theorem weight_of_decoded
    (h : segs.map percentDecode = (Text.splitOn '/' s).map Text.Utf8.encode) :
    weight segs = (Text.Utf8.encode s).length + 1 := by
  have hlengths := congrArg (List.map fun bytes : List UInt8 => bytes.length + 1) h
  rw [List.map_map, List.map_map] at hlengths
  rw [← sum_splitOn]
  exact congrArg List.sum hlengths

structure Plain (piece : List Char) : Prop where
  unescaped : hasEscape piece = false
  undotted : piece ≠ ['.'] ∧ piece ≠ ['.', '.']

instance (piece : List Char) : Decidable (Plain piece) :=
  decidable_of_iff (hasEscape piece = false ∧ piece ≠ ['.'] ∧ piece ≠ ['.', '.'])
    ⟨fun h => ⟨h.1, h.2⟩, fun h => ⟨h.1, h.2⟩⟩

theorem dots_of_plain (h : Plain piece) : dots (percentEncode inPathSet piece) = none := by
  cases hdots : dots (percentEncode inPathSet piece) with
  | none => rfl
  | some n =>
      have hdecoded := percentDecode_of_dots hdots
      rw [percentDecode_percentEncode transparent_inPathSet,
        percentDecode_of_no_escape h.unescaped] at hdecoded
      rcases hdecoded with hone | htwo
      · exact absurd (Text.Utf8.encode_injective (t := ['.']) hone) h.undotted.1
      · exact absurd (Text.Utf8.encode_injective (t := ['.', '.']) htwo) h.undotted.2

theorem resolveDots_of_plain_pieces {pieces : List (List Char)} (hne : pieces ≠ [])
    (h : ∀ piece ∈ pieces, Plain piece) (done : List (List Char)) :
    resolveDots done (pieces.map (percentEncode inPathSet)) =
        done.reverse ++ pieces.map (percentEncode inPathSet) ∧
      (pieces.map (percentEncode inPathSet)).map percentDecode =
        pieces.map Text.Utf8.encode := by
  constructor
  · apply resolveDots_of_plain done (by simpa using hne)
    intro seg hseg
    obtain ⟨piece, hpiece, rfl⟩ := List.mem_map.1 hseg
    exact dots_of_plain (h piece hpiece)
  · rw [List.map_map]
    apply List.map_congr_left
    intro piece hpiece
    rw [Function.comp_apply, percentDecode_percentEncode transparent_inPathSet,
      percentDecode_of_no_escape (h piece hpiece).unescaped]

theorem plain_of_dots (hescape : hasEscape piece = false)
    (hdots : dots (percentEncode inPathSet piece) = none) : Plain piece := by
  refine ⟨hescape, ?_, ?_⟩
  · rintro rfl
    exact absurd hdots (by decide)
  · rintro rfl
    exact absurd hdots (by decide)

theorem lossless_of_decoded (hsub : v.Sublist s)
    (hresolved : resolveDots done ((segments v).map (percentEncode inPathSet)) =
      done.reverse ++ segs)
    (hdecoded : segs.map percentDecode = (Text.splitOn '/' s).map Text.Utf8.encode) :
    v = s ∧ ∀ piece ∈ segments v, Plain piece := by
  obtain ⟨hlength, hwhole⟩ := length_encode_sublist hsub
  have hsegments : (segments v).map (percentEncode inPathSet) ≠ [] := by
    simpa using segments_ne_nil v
  have hweight := congrArg weight hresolved
  rw [weight_append, weight_reverse, weight_of_decoded hdecoded] at hweight
  have hmost := weight_resolveDots_le done hsegments
  have hseen := weight_segments_le v
  have hv : v = s := hwhole (by omega)
  subst hv
  refine ⟨rfl, fun piece hpiece => plain_of_dots ?_ ?_⟩
  · rw [Bool.eq_false_iff]
    intro hescape
    have hless := weight_segments_lt hpiece hescape
    omega
  · cases hdots : dots (percentEncode inPathSet piece) with
    | none => rfl
    | some n =>
        have hless := weight_resolveDots_lt done (List.mem_map_of_mem hpiece) hdots
        omega

theorem resolveDots_iff (hsub : v.Sublist s) (done : List (List Char)) :
    (∃ segs, resolveDots done ((segments v).map (percentEncode inPathSet)) = done.reverse ++ segs ∧
        segs.map percentDecode = (Text.splitOn '/' s).map Text.Utf8.encode) ↔
      v = s ∧ '\\' ∉ s ∧ ∀ piece ∈ Text.splitOn '/' s, Plain piece := by
  constructor
  · rintro ⟨segs, hresolved, hdecoded⟩
    obtain ⟨rfl, hplain⟩ := lossless_of_decoded hsub hresolved hdecoded
    have hkept := (resolveDots_of_plain_pieces (segments_ne_nil v) hplain done).1
    rw [hkept] at hresolved
    -- A backslash would be one more cut.
    have hcount := congrArg List.length hdecoded
    rw [← List.append_cancel_left hresolved, List.length_map, List.length_map, List.length_map,
      segments_eq, Text.length_splitOn, Text.length_splitOn, count_slashed] at hcount
    have hback : '\\' ∉ v := List.count_eq_zero.1 (by omega)
    rw [segments_eq, slashed_of_not_mem hback] at hplain
    exact ⟨rfl, hback, hplain⟩
  · rintro ⟨rfl, hback, hplain⟩
    obtain ⟨hresolved, hdecoded⟩ :=
      resolveDots_of_plain_pieces (Text.splitOn_ne_nil '/' v) hplain done
    refine ⟨_, ?_, hdecoded⟩
    rw [segments_eq, slashed_of_not_mem hback, hresolved]

def visible (s : List Char) : List Char := (cutAt '?' (cutAt '#' s).1).1

theorem path_beneath (u : Url) (s : List Char) :
    (beneath u s).path =
      resolveDots u.path.dropLast.reverse ((segments (visible s)).map (percentEncode inPathSet)) :=
  rfl

theorem visible_eq (s : List Char) :
    visible s = (s.takeWhile (· != '#')).takeWhile (· != '?') := by
  rw [visible, fst_cutAt, fst_cutAt]

theorem visible_sublist (s : List Char) : (visible s).Sublist s := by
  rw [visible_eq]
  exact (List.takeWhile_sublist _).trans (List.takeWhile_sublist _)

theorem visible_of_not_mem (hhash : '#' ∉ s) (hmark : '?' ∉ s) : visible s = s := by
  have hself : ∀ {c}, c ∉ s → s.takeWhile (· != c) = s := by
    intro c hc
    apply List.takeWhile_eq_self_iff.2
    intro d hd
    simp only [bne_iff_ne]
    rintro rfl
    exact hc hd
  rw [visible_eq, hself hhash, hself hmark]

theorem not_mem_visible (s : List Char) : '#' ∉ visible s ∧ '?' ∉ visible s := by
  rw [visible_eq]
  constructor
  · intro hmem
    have htaken := (List.takeWhile_sublist _).subset hmem
    simpa using List.mem_takeWhile_imp htaken
  · intro hmem
    simpa using List.mem_takeWhile_imp hmem

def strip (s : List Char) : List Char :=
  s.filter fun c => c != '\t' && c != '\n' && c != '\r'

theorem visible_strip_sublist (s : List Char) : (visible (strip s)).Sublist s :=
  (visible_sublist _).trans List.filter_sublist

def marks : List Char := ['?', '#', '\\', '\t', '\n', '\r']

theorem not_mem_of_free (hfree : ∀ c ∈ s, c ∉ marks) (hmark : c ∈ marks) : c ∉ s :=
  fun hc => hfree c hc hmark

theorem strip_of_free (hfree : ∀ c ∈ s, c ∉ marks) : strip s = s := by
  apply List.filter_eq_self.2
  intro c hc
  have hne := hfree c hc
  simp only [marks, List.mem_cons, List.not_mem_nil, or_false, not_or] at hne
  simp [hne]

theorem visible_strip_eq_iff :
    visible (strip s) = s ∧ '\\' ∉ s ↔ ∀ c ∈ s, c ∉ marks := by
  constructor
  · rintro ⟨hvisible, hback⟩ c hc hmark
    have hstrip : strip s = s := by
      apply List.filter_sublist.antisymm
      have hsub := visible_sublist (strip s)
      rwa [hvisible] at hsub
    have hkept := List.filter_eq_self.1 hstrip c hc
    have hseen := not_mem_visible (strip s)
    rw [hvisible] at hseen
    simp only [marks, List.mem_cons, List.not_mem_nil, or_false] at hmark
    rcases hmark with rfl | rfl | rfl | rfl | rfl | rfl
    · exact hseen.2 hc
    · exact hseen.1 hc
    · exact hback hc
    · cases hkept
    · cases hkept
    · cases hkept
  · intro hfree
    refine ⟨?_, not_mem_of_free hfree (by decide)⟩
    rw [strip_of_free hfree]
    exact visible_of_not_mem (not_mem_of_free hfree (by decide))
      (not_mem_of_free hfree (by decide))

def EndsVisibly (s : List Char) : Prop := ∀ last ∈ s.getLast?, 32 < last.toNat

instance (s : List Char) : Decidable (EndsVisibly s) :=
  decidable_of_iff (s.getLast?.all (32 < ·.toNat) = true) (by
    unfold EndsVisibly
    cases s.getLast? <;> simp)

theorem dropEndWhile_eq_self_iff :
    Text.dropEndWhile (·.toNat ≤ 32) s = s ↔ EndsVisibly s := by
  rw [Text.dropEndWhile, List.reverse_eq_iff, EndsVisibly, ← List.head?_reverse]
  cases s.reverse with
  | nil => simp
  | cons last init =>
      rw [List.dropWhile_eq_self_iff]
      simp

theorem dropEndWhile_sublist (p : Char → Bool) (s : List Char) :
    (Text.dropEndWhile p s).Sublist s := by
  have hsub := (List.dropWhile_sublist p (l := s.reverse)).reverse
  rwa [List.reverse_reverse] at hsub

theorem visible_tidy_sublist (s : List Char) : (visible (tidy s)).Sublist s :=
  (visible_strip_sublist _).trans (dropEndWhile_sublist _ s)

theorem visible_tidy_eq_iff :
    visible (tidy s) = s ∧ '\\' ∉ s ↔ (∀ c ∈ s, c ∉ marks) ∧ EndsVisibly s := by
  rw [← visible_strip_eq_iff, ← dropEndWhile_eq_self_iff]
  have htidy : tidy s = strip (Text.dropEndWhile (·.toNat ≤ 32) s) := rfl
  constructor
  · rintro ⟨hvisible, hback⟩
    have hsub := visible_strip_sublist (Text.dropEndWhile (·.toNat ≤ 32) s)
    rw [← htidy, hvisible] at hsub
    have hends := (dropEndWhile_sublist _ s).antisymm hsub
    rw [htidy, hends] at hvisible
    exact ⟨⟨hvisible, hback⟩, hends⟩
  · rintro ⟨⟨hvisible, hback⟩, hends⟩
    rw [htidy, hends]
    exact ⟨hvisible, hback⟩

theorem visible_append_query (s q : List Char) : visible (s ++ '?' :: q) = visible s := by
  simp only [visible_eq]
  induction s with
  | nil => simp
  | cons c s ih =>
      by_cases hhash : c = '#'
      · simp [hhash]
      · by_cases hmark : c = '?'
        · simp [hmark]
        · simpa [hhash, hmark] using ih

def Quiet (c : Char) : Prop :=
  32 < c.toNat ∧ Text.isAscii c = true ∧ inSpecialQuerySet c = false

instance (c : Char) : Decidable (Quiet c) := inferInstanceAs (Decidable (_ ∧ _))

theorem tidy_append_query {q : List Char} (hq : ∀ c ∈ q, Quiet c) (hne : q ≠ []) (s : List Char) :
    tidy (s ++ '?' :: q) = strip s ++ '?' :: q := by
  have hends : EndsVisibly (s ++ '?' :: q) := by
    intro last hlast
    rw [List.getLast?_append_cons, List.getLast?_cons_of_ne_nil hne] at hlast
    exact (hq last (List.mem_of_mem_getLast? hlast)).1
  have hstrip : strip q = q := by
    apply List.filter_eq_self.2
    intro c hc
    have hlow := (hq c hc).1
    have hne : c ≠ '\t' ∧ c ≠ '\n' ∧ c ≠ '\r' := by
      refine ⟨?_, ?_, ?_⟩ <;>
        · rintro rfl
          exact absurd hlow (by decide)
    simp [hne]
  have htidy : tidy (s ++ '?' :: q) = strip (Text.dropEndWhile (·.toNat ≤ 32) (s ++ '?' :: q)) :=
    rfl
  rw [htidy, dropEndWhile_eq_self_iff.2 hends, strip, List.filter_append]
  exact congrArg (fun q => strip s ++ '?' :: q) hstrip

theorem percentEncode_of_quiet {q : List Char} (hq : ∀ c ∈ q, Quiet c) :
    percentEncode inSpecialQuerySet q = q := by
  induction q with
  | nil => rfl
  | cons c q ih =>
      obtain ⟨_, hascii, hset⟩ := hq c List.mem_cons_self
      have hrest := ih fun d hd => hq d (List.mem_cons_of_mem c hd)
      have hchar : encodeChar inSpecialQuerySet c = [c] := by simp [encodeChar, hset, hascii]
      rw [percentEncode, List.flatMap_cons, hchar]
      exact congrArg (c :: ·) hrest

theorem resolveDots_of_unmarked (hfree : ∀ c ∈ s, c ∉ marks)
    (hplain : ∀ piece ∈ Text.splitOn '/' s, Plain piece) (before : List (List Char)) :
    resolveDots before.reverse ((segments s).map (percentEncode inPathSet)) =
      before ++ (Text.splitOn '/' s).map (percentEncode inPathSet) := by
  obtain ⟨hresolved, _⟩ :=
    resolveDots_of_plain_pieces (Text.splitOn_ne_nil '/' s) hplain before.reverse
  rw [segments_eq, slashed_of_not_mem (not_mem_of_free hfree (by decide)), hresolved,
    List.reverse_reverse]

section Root

variable {root : String} {u : Url} {q : List Char}

theorem Root.parse_plain (h : Root root u) (hfree : ∀ c ∈ s, c ∉ marks)
    (hplain : ∀ piece ∈ Text.splitOn '/' s, Plain piece) (hends : EndsVisibly s) :
    parse (root ++ String.ofList s) = .ok { u with
      path := u.path.dropLast ++ (Text.splitOn '/' s).map (percentEncode inPathSet) } := by
  have hpath := resolveDots_of_unmarked hfree hplain u.path.dropLast
  have htidy : tidy s = s := by
    rw [show tidy s = strip (Text.dropEndWhile (·.toNat ≤ 32) s) from rfl,
      dropEndWhile_eq_self_iff.2 hends, strip_of_free hfree]
  have hhash : cutAt '#' s = (s, none) := cutAt_of_not_mem (not_mem_of_free hfree (by decide))
  have hmark : cutAt '?' s = (s, none) := cutAt_of_not_mem (not_mem_of_free hfree (by decide))
  rw [h.parse_append, String.toList_ofList, htidy, beneath]
  simp only [hhash, hmark, hpath, Option.map_none, h.noQuery, h.noFragment]

theorem Root.parse_plain_query (h : Root root u) (hfree : ∀ c ∈ s, c ∉ marks)
    (hplain : ∀ piece ∈ Text.splitOn '/' s, Plain piece) (hq : ∀ c ∈ q, Quiet c) (hne : q ≠ []) :
    parse (root ++ String.ofList (s ++ '?' :: q)) = .ok { u with
      path := u.path.dropLast ++ (Text.splitOn '/' s).map (percentEncode inPathSet)
      query := some q } := by
  have hpath := resolveDots_of_unmarked hfree hplain u.path.dropLast
  have hquiet : '#' ∉ '?' :: q := by
    intro hmem
    rcases List.mem_cons.1 hmem with hmem | hmem
    · cases hmem
    · exact absurd (hq '#' hmem).2.2 (by decide)
  have hhash : cutAt '#' (s ++ '?' :: q) = (s ++ '?' :: q, none) := by
    apply cutAt_of_not_mem
    intro hmem
    rcases List.mem_append.1 hmem with hmem | hmem
    · exact not_mem_of_free hfree (by decide) hmem
    · exact hquiet hmem
  have hmark : cutAt '?' (s ++ '?' :: q) = (s, some q) := by
    rw [cutAt_append (not_mem_of_free hfree (by decide)),
      show cutAt '?' ('?' :: q) = ([], some q) from rfl, List.append_nil]
  rw [h.parse_append, String.toList_ofList, tidy_append_query hq hne, strip_of_free hfree, beneath]
  simp only [hhash, hmark, hpath, Option.map_none, Option.map_some,
    percentEncode_of_quiet hq, h.noFragment]

theorem Root.plain_of_parse {v : Url} (h : Root root u)
    (hparse : parse (root ++ String.ofList s) = .ok v) (hpath : v.path = u.path.dropLast ++ segs)
    (hdecoded : segs.map percentDecode = (Text.splitOn '/' s).map Text.Utf8.encode) :
    (∀ c ∈ s, c ∉ marks) ∧ (∀ piece ∈ Text.splitOn '/' s, Plain piece) ∧ EndsVisibly s := by
  rw [h.parse_append, String.toList_ofList, Except.ok.injEq] at hparse
  subst hparse
  rw [path_beneath] at hpath
  obtain ⟨hvisible, hback, hplain⟩ := (resolveDots_iff (visible_tidy_sublist s) _).1
    ⟨segs, by rw [hpath, List.reverse_reverse], hdecoded⟩
  obtain ⟨hfree, hends⟩ := visible_tidy_eq_iff.1 ⟨hvisible, hback⟩
  exact ⟨hfree, hplain, hends⟩

theorem Root.plain_of_parse_query {v : Url} (h : Root root u) (hq : ∀ c ∈ q, Quiet c)
    (hne : q ≠ []) (hparse : parse (root ++ String.ofList (s ++ '?' :: q)) = .ok v)
    (hpath : v.path = u.path.dropLast ++ segs)
    (hdecoded : segs.map percentDecode = (Text.splitOn '/' s).map Text.Utf8.encode) :
    (∀ c ∈ s, c ∉ marks) ∧ ∀ piece ∈ Text.splitOn '/' s, Plain piece := by
  rw [h.parse_append, String.toList_ofList, tidy_append_query hq hne, Except.ok.injEq] at hparse
  subst hparse
  rw [path_beneath, visible_append_query] at hpath
  obtain ⟨hvisible, hback, hplain⟩ := (resolveDots_iff (visible_strip_sublist s) _).1
    ⟨segs, by rw [hpath, List.reverse_reverse], hdecoded⟩
  exact ⟨visible_strip_eq_iff.1 ⟨hvisible, hback⟩, hplain⟩

end Root

end Reconcile.Url
