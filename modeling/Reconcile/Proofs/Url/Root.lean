import Mathlib.Data.List.TakeDrop
import Reconcile.Proofs.Except
import Reconcile.Proofs.Url.Dots

namespace Reconcile.Url

variable {s t rest : List Char} {p : Char → Bool} {c : Char}

def EndsInSlash (s : List Char) : Prop := s.getLast? = some '/'

theorem EndsInSlash.of_append (h : EndsInSlash (s ++ t)) (ht : t ≠ []) : EndsInSlash t := by
  rw [EndsInSlash, List.getLast?_append] at h
  cases hlast : t.getLast? with
  | none => exact absurd (List.getLast?_eq_none_iff.1 hlast) ht
  | some last =>
      rw [hlast] at h
      exact hlast.trans h

theorem EndsInSlash.append (hs : EndsInSlash t) : EndsInSlash (s ++ t) := by
  rw [EndsInSlash, List.getLast?_append, hs]
  rfl

theorem EndsInSlash.of_cons (h : EndsInSlash (c :: s)) (hc : c ≠ '/') : EndsInSlash s := by
  cases s with
  | nil => exact absurd (Option.some.inj h) hc
  | cons d s =>
      have happend : EndsInSlash ([c] ++ d :: s) := h
      exact happend.of_append (List.cons_ne_nil d s)

theorem EndsInSlash.dropWhile_append (h : EndsInSlash s) (hp : p '/' = false) :
    (s ++ t).dropWhile p = s.dropWhile p ++ t ∧ EndsInSlash (s.dropWhile p) := by
  induction s with
  | nil => cases h
  | cons c s ih =>
      cases hc : p c with
      | false => simp [hc, h]
      | true =>
          have hne : c ≠ '/' := by
            rintro rfl
            rw [hp] at hc
            cases hc
          simpa [hc] using ih (h.of_cons hne)

theorem EndsInSlash.takeWhile_append (h : EndsInSlash s) (hp : p '/' = false) :
    (s ++ t).takeWhile p = s.takeWhile p := by
  induction s with
  | nil => cases h
  | cons c s ih =>
      cases hc : p c with
      | false => simp [hc]
      | true =>
          have hne : c ≠ '/' := by
            rintro rfl
            rw [hp] at hc
            cases hc
          simpa [hc] using ih (h.of_cons hne)

theorem EndsInSlash.dropEndWhile_append (h : EndsInSlash s) (hp : p '/' = false) :
    Text.dropEndWhile p (s ++ t) = s ++ Text.dropEndWhile p t := by
  obtain ⟨lead, rfl⟩ := List.getLast?_eq_some_iff.1 h
  have hlead : ('/' :: lead.reverse).dropWhile p = '/' :: lead.reverse :=
    List.dropWhile_cons_of_neg (by simp [hp])
  simp only [Text.dropEndWhile, List.reverse_append, List.reverse_cons, List.reverse_nil,
    List.nil_append, List.singleton_append, List.dropWhile_append, hlead]
  split
  · next hnil => simp [List.isEmpty_iff.1 hnil]
  · simp

def tidy (s : List Char) : List Char :=
  (Text.dropEndWhile (·.toNat ≤ 32) s).filter fun c => c != '\t' && c != '\n' && c != '\r'

theorem EndsInSlash.clean_append (h : EndsInSlash s) (t : List Char) :
    clean (s ++ t) = clean s ++ tidy t ∧ EndsInSlash (clean s) := by
  obtain ⟨hdrop, hends⟩ := h.dropWhile_append (t := t) (p := (·.toNat ≤ 32)) (by decide)
  have hkept := hends.dropEndWhile_append (t := t) (p := (·.toNat ≤ 32)) (by decide)
  have hself := hends.dropEndWhile_append (t := []) (p := (·.toNat ≤ 32)) (by decide)
  have hnil : Text.dropEndWhile (·.toNat ≤ 32) [] = [] := rfl
  rw [List.append_nil, hnil, List.append_nil] at hself
  constructor
  · rw [clean, clean, tidy, Text.trim, Text.trim, hdrop, hkept, hself, List.filter_append]
  · rw [clean, Text.trim, hself]
    obtain ⟨lead, hlead⟩ := List.getLast?_eq_some_iff.1 hends
    rw [hlead, List.filter_append]
    exact EndsInSlash.append rfl

theorem span_append {a b : List Char} (hs : s.span p = (a, c :: b)) (t : List Char) :
    (s ++ t).span p = (a, c :: (b ++ t)) ∧ s = a ++ c :: b ∧ p c = false := by
  rw [List.span_eq_takeWhile_dropWhile, Prod.mk.injEq] at hs
  obtain ⟨htake, hdrop⟩ := hs
  have hparts : s = a ++ c :: b := by
    rw [← htake, ← hdrop, List.takeWhile_append_dropWhile]
  have hstop : p c = false := by
    have hhead := List.head_dropWhile_not p (l := s) (by simp [hdrop])
    simpa [hdrop] using hhead
  have hshort : (s.takeWhile p).length ≠ s.length := by
    have hlength := congrArg List.length hparts
    rw [List.length_append, List.length_cons] at hlength
    rw [htake]
    omega
  refine ⟨?_, hparts, hstop⟩
  rw [List.span_eq_takeWhile_dropWhile, List.takeWhile_append, if_neg hshort,
    List.dropWhile_append, hdrop, htake]
  rfl

theorem EndsInSlash.scheme?_append {name : List Char} (h : EndsInSlash s)
    (hs : scheme? s = some (name, rest)) (t : List Char) :
    scheme? (s ++ t) = some (name, rest ++ t) ∧ EndsInSlash rest := by
  unfold scheme? at hs ⊢
  split at hs
  · cases hs
  · next raw colon after hspan =>
      obtain ⟨hlonger, hparts, hcolon⟩ := span_append hspan t
      have hafter : EndsInSlash after := by
        rw [hparts] at h
        refine (h.of_append (List.cons_ne_nil _ _)).of_cons ?_
        rintro rfl
        cases hcolon
      rw [hlonger]
      simp only at hs ⊢
      split at hs
      · cases hs
      · split at hs
        · next hname =>
            cases hs
            exact ⟨if_pos hname, hafter⟩
        · cases hs

theorem EndsInSlash.dropUserinfo_append (h : EndsInSlash s) (hs : dropUserinfo s = .ok rest)
    (t : List Char) : dropUserinfo (s ++ t) = .ok (rest ++ t) ∧ EndsInSlash rest := by
  have htake : ∀ p : Char → Bool, p '/' = false → (s ++ t).takeWhile p = s.takeWhile p ∧
      (s ++ t).drop (s.takeWhile p).length = s.drop (s.takeWhile p).length ++ t ∧
      EndsInSlash (s.drop (s.takeWhile p).length) := by
    intro p hp
    have hparts := List.takeWhile_append_dropWhile (p := p) (l := s)
    have hends := (h.dropWhile_append (t := t) hp).2
    have hdrop : s.drop (s.takeWhile p).length = s.dropWhile p :=
      calc s.drop (s.takeWhile p).length
          = (s.takeWhile p ++ s.dropWhile p).drop (s.takeWhile p).length := by rw [hparts]
        _ = s.dropWhile p := List.drop_left
    refine ⟨h.takeWhile_append hp, ?_, hdrop ▸ hends⟩
    exact List.drop_append_of_le_length (List.takeWhile_prefix p).length_le
  obtain ⟨hauthority, hdrop, hends⟩ := htake (fun c => !(isSlash c || c == '?' || c == '#')) rfl
  unfold dropUserinfo at hs ⊢
  simp only at hs ⊢
  rw [hauthority, hdrop]
  split at hs
  · cases hs
    exact ⟨rfl, h⟩
  · cases hs
  · cases hs
    exact ⟨by rw [List.append_assoc], hends.append⟩

theorem EndsInSlash.hostText_append (h : EndsInSlash s) (inside : Bool) (t : List Char) :
    hostText inside (s ++ t) = ((hostText inside s).1, (hostText inside s).2 ++ t) ∧
      EndsInSlash (hostText inside s).2 := by
  induction s generalizing inside with
  | nil => cases h
  | cons c s ih =>
      simp only [List.cons_append, hostText]
      split
      · exact ⟨rfl, h⟩
      · next hgoes =>
          have hne : c ≠ '/' := by
            rintro rfl
            simp [isSlash] at hgoes
          obtain ⟨hrest, hends⟩ := ih (h.of_cons hne)
            (if c == '[' then true else if c == ']' then false else inside)
          rw [hrest]
          exact ⟨rfl, hends⟩

theorem EndsInSlash.portDigits_append {n : Nat} {seen : Bool} {port : Option Nat}
    (h : EndsInSlash s)
    (hs : portDigits n seen s = .ok (port, rest)) (t : List Char) :
    portDigits n seen (s ++ t) = .ok (port, rest ++ t) ∧ EndsInSlash rest := by
  induction s generalizing n seen with
  | nil => cases h
  | cons c s ih =>
      simp only [List.cons_append, portDigits] at hs ⊢
      split at hs
      · next hdigit =>
          have hne : c ≠ '/' := by
            rintro rfl
            cases hdigit
          split at hs
          · cases hs
          · next hsmall =>
              rw [if_pos hdigit, if_neg hsmall]
              exact ih (h.of_cons hne) hs
      · next hdigit =>
          split at hs
          · next hstop =>
              cases hs
              rw [if_neg hdigit, if_pos hstop]
              exact ⟨rfl, h⟩
          · cases hs

theorem EndsInSlash.readPort_append {scheme : List Char} {port : Option Nat} (h : EndsInSlash s)
    (hs : readPort scheme s = .ok (port, rest)) (t : List Char) :
    readPort scheme (s ++ t) = .ok (port, rest ++ t) ∧ EndsInSlash rest := by
  cases s with
  | nil => cases h
  | cons c s =>
      by_cases hc : c = ':'
      · subst hc
        obtain ⟨⟨n, digits⟩, hdigits, hport⟩ := bind_eq_ok_iff.1 hs
        obtain ⟨hlonger, hends⟩ := (h.of_cons (by decide)).portDigits_append hdigits t
        cases hport
        exact ⟨bind_eq_ok_iff.2 ⟨_, hlonger, rfl⟩, hends⟩
      · have hnone : ∀ s, readPort scheme (c :: s) = .ok (none, c :: s) := by
          intro s
          unfold readPort
          split
          · next heq => exact absurd (List.cons.inj heq).1 hc
          · rfl
        rw [hnone] at hs
        cases hs
        exact ⟨hnone _, h⟩

def cutAt (c : Char) (s : List Char) : List Char × Option (List Char) :=
  match s.span (· != c) with
  | (a, []) => (a, none)
  | (a, _ :: b) => (a, some b)

theorem cutAt_append (h : c ∉ s) (t : List Char) :
    cutAt c (s ++ t) = (s ++ (cutAt c t).1, (cutAt c t).2) := by
  have hpass : ∀ d ∈ s, (d != c) = true := by
    intro d hd
    simp only [bne_iff_ne]
    rintro rfl
    exact h hd
  have hspan : (s ++ t).span (· != c) =
      (s ++ (t.span (· != c)).1, (t.span (· != c)).2) := by
    simp only [List.span_eq_takeWhile_dropWhile, List.takeWhile_append_of_pos hpass,
      List.dropWhile_append_of_pos hpass]
  unfold cutAt
  rw [hspan]
  rcases t.span (· != c) with ⟨a, _ | ⟨d, b⟩⟩ <;> rfl

theorem cutAt_of_not_mem (h : c ∉ s) : cutAt c s = (s, none) := by
  have hself := cutAt_append h []
  rwa [List.append_nil, show cutAt c [] = ([], none) from rfl, List.append_nil] at hself

theorem fst_cutAt (c : Char) (s : List Char) : (cutAt c s).1 = s.takeWhile (· != c) := by
  unfold cutAt
  rw [List.span_eq_takeWhile_dropWhile]
  cases s.dropWhile (· != c) <;> rfl

theorem snd_cutAt_eq_none_iff : (cutAt c s).2 = none ↔ c ∉ s := by
  unfold cutAt
  rw [List.span_eq_takeWhile_dropWhile]
  cases hdrop : s.dropWhile (· != c) with
  | nil =>
      have htake := List.takeWhile_append_dropWhile (p := (· != c)) (l := s)
      rw [hdrop, List.append_nil] at htake
      have hall := List.all_takeWhile (p := (· != c)) (l := s)
      rw [htake, List.all_eq_true] at hall
      simp only [true_iff]
      intro hc
      simpa using hall c hc
  | cons d b =>
      have hstop : (d != c) = false := by
        have hhead := List.head_dropWhile_not (· != c) (l := s) (by simp [hdrop])
        simpa [hdrop] using hhead
      have hdc : d = c := by simpa using hstop
      have hmem : d ∈ s := (List.dropWhile_suffix (· != c)).subset (by simp [hdrop])
      simp [← hdc, hmem]

def dropSlash : List Char → List Char
  | c :: cs => if isSlash c then cs else c :: cs
  | [] => []

theorem pathOf_eq (s : List Char) :
    pathOf s = resolveDots [] ((segments (dropSlash s)).map (percentEncode inPathSet)) := by
  cases s <;> rfl

theorem EndsInSlash.dropSlash_append (h : EndsInSlash s) (t : List Char) :
    dropSlash (s ++ t) = dropSlash s ++ t ∧ (dropSlash s = [] ∨ EndsInSlash (dropSlash s)) := by
  cases s with
  | nil => cases h
  | cons c s =>
      simp only [List.cons_append, dropSlash]
      split
      · refine ⟨rfl, ?_⟩
        by_cases hs : s = []
        · exact .inl hs
        · have happend : EndsInSlash ([c] ++ s) := h
          exact .inr (happend.of_append hs)
      · exact ⟨rfl, .inr h⟩

theorem segments_ne_nil (s : List Char) : segments s ≠ [] := Text.splitOn_ne_nil _ _

theorem segments_append (h : s = [] ∨ EndsInSlash s) :
    ∃ whole, segments s = whole ++ [[]] ∧ ∀ t, segments (s ++ t) = whole ++ segments t := by
  rcases h with rfl | h
  · exact ⟨[], rfl, fun t => rfl⟩
  · obtain ⟨lead, rfl⟩ := List.getLast?_eq_some_iff.1 h
    have hsplit : ∀ t, segments (lead ++ '/' :: t) = segments lead ++ segments t := by
      intro t
      simp only [segments, List.map_append, List.map_cons]
      exact Text.splitOn_append_sep _ _
    refine ⟨segments lead, hsplit [], fun t => ?_⟩
    rw [List.append_assoc, List.singleton_append, hsplit]

theorem EndsInSlash.pathOf_append (h : EndsInSlash s) (t : List Char) :
    pathOf (s ++ t) =
      resolveDots (pathOf s).dropLast.reverse ((segments t).map (percentEncode inPathSet)) := by
  obtain ⟨hstripped, hends⟩ := h.dropSlash_append t
  obtain ⟨whole, hself, hmore⟩ := segments_append hends
  have hmapped : (segments t).map (percentEncode inPathSet) ≠ [] := by
    simpa using segments_ne_nil t
  have hroot : pathOf s =
      ((whole.map (percentEncode inPathSet)).foldl enter []).reverse ++ [[]] := by
    rw [pathOf_eq, hself, List.map_append]
    show resolveDots [] (whole.map (percentEncode inPathSet) ++ [[]]) = _
    rw [resolveDots_append _ _ (List.cons_ne_nil _ _), resolveDots_last,
      enter_of_plain _ (by rfl)]
    exact List.reverse_cons
  rw [hroot, List.dropLast_concat, List.reverse_reverse, pathOf_eq, hstripped, hmore,
    List.map_append, resolveDots_append _ _ hmapped]

def beneath (u : Url) (text : List Char) : Url :=
  let (before, fragment) := cutAt '#' text
  let (path, query) := cutAt '?' before
  { u with
    path := resolveDots u.path.dropLast.reverse ((segments path).map (percentEncode inPathSet))
    query := query.map (percentEncode inSpecialQuerySet)
    fragment := fragment.map (percentEncode inFragmentSet) }

def assemble (scheme : List Char) (host : Host) (port : Option Nat) (text : List Char) : Url :=
  let (before, fragment) := cutAt '#' text
  let (path, query) := cutAt '?' before
  { scheme, host := some host, port
    path := pathOf path
    opaquePath := []
    query := query.map (percentEncode inSpecialQuerySet)
    fragment := fragment.map (percentEncode inFragmentSet) }

theorem parseAuthority_eq_ok_iff {scheme : List Char} {u : Url} :
    parseAuthority scheme s = .ok u ↔
      ∃ named host port text, dropUserinfo (s.dropWhile isSlash) = .ok named ∧
        (hostText false named).1 ≠ [] ∧ Host.parse (hostText false named).1 = .ok host ∧
        readPort scheme (hostText false named).2 = .ok (port, text) ∧
        u = assemble scheme host port text := by
  constructor
  · intro hu
    obtain ⟨named, hnamed, hu⟩ := bind_eq_ok_iff.1 hu
    dsimp only at hu
    split at hu
    · cases hu
    next hfilled =>
      obtain ⟨host, hhost, hu⟩ := bind_eq_ok_iff.1 hu
      obtain ⟨⟨port, text⟩, hport, hu⟩ := bind_eq_ok_iff.1 hu
      cases hu
      refine ⟨named, host, port, text, hnamed, ?_, hhost, hport, rfl⟩
      simpa [List.isEmpty_iff] using hfilled
  · rintro ⟨named, host, port, text, hnamed, hfilled, hhost, hport, rfl⟩
    refine bind_eq_ok_iff.2 ⟨named, hnamed, ?_⟩
    dsimp only
    rw [if_neg (by simpa [List.isEmpty_iff] using hfilled)]
    exact bind_eq_ok_iff.2 ⟨host, hhost, bind_eq_ok_iff.2 ⟨_, hport, rfl⟩⟩

theorem EndsInSlash.assemble_append {scheme : List Char} {host : Host} {port : Option Nat}
    (h : EndsInSlash s) (hquery : (assemble scheme host port s).query = none)
    (hfragment : (assemble scheme host port s).fragment = none) (t : List Char) :
    assemble scheme host port (s ++ t) = beneath (assemble scheme host port s) t := by
  have hhash : '#' ∉ s := snd_cutAt_eq_none_iff.1 (Option.map_eq_none_iff.1 hfragment)
  have hbefore := cutAt_of_not_mem hhash
  have hmark : '?' ∉ s := by
    have hnone : (cutAt '?' (cutAt '#' s).1).2 = none := Option.map_eq_none_iff.1 hquery
    rw [hbefore] at hnone
    exact snd_cutAt_eq_none_iff.1 hnone
  have hpath := cutAt_of_not_mem hmark
  simp only [assemble, beneath, cutAt_append hhash, cutAt_append hmark, hbefore, hpath,
    h.pathOf_append]

theorem EndsInSlash.parseAuthority_append {scheme : List Char} {u : Url} (h : EndsInSlash s)
    (hu : parseAuthority scheme s = .ok u) (hquery : u.query = none) (hfragment : u.fragment = none)
    (t : List Char) : parseAuthority scheme (s ++ t) = .ok (beneath u t) := by
  obtain ⟨named, host, port, text, hnamed, hfilled, hhost, hport, rfl⟩ :=
    parseAuthority_eq_ok_iff.1 hu
  have hhosted : s.dropWhile isSlash ≠ [] := by
    intro hnil
    rw [hnil] at hnamed
    cases hnamed
    exact hfilled rfl
  have hslashes : (s ++ t).dropWhile isSlash = s.dropWhile isSlash ++ t := by
    rw [List.dropWhile_append, if_neg (by simpa [List.isEmpty_iff] using hhosted)]
  have hends : EndsInSlash (s.dropWhile isSlash) := by
    rw [← List.takeWhile_append_dropWhile (p := isSlash) (l := s)] at h
    exact h.of_append hhosted
  obtain ⟨hnamed', hends⟩ := hends.dropUserinfo_append hnamed t
  obtain ⟨hhost', hends⟩ := hends.hostText_append false t
  obtain ⟨hport', hends⟩ := hends.readPort_append hport t
  rw [← hends.assemble_append hquery hfragment]
  refine parseAuthority_eq_ok_iff.2 ⟨named ++ t, host, port, text ++ t, ?_, ?_, ?_, ?_, rfl⟩
  · rw [hslashes, hnamed']
  · rwa [hhost']
  · rwa [hhost']
  · rwa [hhost']

structure Root (root : String) (u : Url) : Prop where
  slash : EndsInSlash root.toList
  parsed : parse root = .ok u
  web : (defaultPort u.scheme).isSome
  noQuery : u.query = none
  noFragment : u.fragment = none

theorem Root.parse_append {root : String} {u : Url} (h : Root root u) (text : String) :
    parse (root ++ text) = .ok (beneath u (tidy text.toList)) := by
  obtain ⟨hclean, hends⟩ := h.slash.clean_append text.toList
  have hparsed := h.parsed
  unfold parse at hparsed ⊢
  rw [String.toList_append, hclean]
  cases hscheme : scheme? (clean root.toList) with
  | none =>
      rw [hscheme] at hparsed
      cases hparsed
  | some named =>
      obtain ⟨scheme, rest⟩ := named
      obtain ⟨hlonger, hrest⟩ := hends.scheme?_append hscheme (tidy text.toList)
      rw [hscheme] at hparsed
      rw [hlonger]
      dsimp only at hparsed ⊢
      split at hparsed
      · next hweb =>
          rw [if_pos hweb]
          exact hrest.parseAuthority_append hparsed h.noQuery h.noFragment _
      · next hopaque =>
          cases hparsed
          exact absurd h.web hopaque

theorem Root.path_eq {root : String} {u : Url} (h : Root root u) :
    u.path = u.path.dropLast ++ [[]] := by
  have hself := h.parse_append ""
  rw [String.append_empty, h.parsed, Except.ok.injEq] at hself
  have hpath := congrArg Url.path hself
  have hends : resolveDots u.path.dropLast.reverse [[]] =
      ([] :: u.path.dropLast.reverse).reverse := rfl
  rw [show (beneath u (tidy "".toList)).path = resolveDots u.path.dropLast.reverse [[]] from rfl,
    hends, List.reverse_cons, List.reverse_reverse] at hpath
  exact hpath

end Reconcile.Url
