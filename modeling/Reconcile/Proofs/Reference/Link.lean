import Mathlib.Data.List.DropRight
import Mathlib.Data.List.TakeWhile
import Reconcile.Proofs.Except
import Reconcile.Proofs.Text.Pieces
import Reconcile.Reference
import Reconcile.SelfLink

namespace Reconcile

def IsSegment (text : String) : Prop := text.toList ≠ [] ∧ '/' ∉ text.toList

instance (text : String) : Decidable (IsSegment text) :=
  inferInstanceAs (Decidable (_ ∧ _))

theorem IsSegment.isEmpty {text : String} (h : IsSegment text) : text.isEmpty = false := by
  rw [Bool.eq_false_iff]
  intro hempty
  exact h.1 (by rw [String.isEmpty_iff.1 hempty]; rfl)

theorem isSegment_of_mem_splitOn {s : List Char} {text : String}
    (hne : ∀ piece ∈ Text.splitOn '/' s, piece ≠ [])
    (h : text ∈ (Text.splitOn '/' s).map String.ofList) : IsSegment text := by
  obtain ⟨piece, hpiece, rfl⟩ := List.mem_map.1 h
  rw [IsSegment, String.toList_ofList]
  exact ⟨hne piece hpiece, Text.not_mem_of_mem_splitOn hpiece⟩

namespace SelfLink

theorem dropWhile_isSlash_ne_nil {s : List Char} (h : ∃ c ∈ s, c ≠ '/') :
    s.dropWhile isSlash ≠ [] := by
  obtain ⟨c, hc, hne⟩ := h
  intro hnil
  have hslash := List.dropWhile_eq_nil_iff.1 hnil c hc
  exact hne (by simpa [isSlash] using hslash)

theorem nameChars_suffix (lead : List Char) {s : List Char} (h : ∃ c ∈ s, c ≠ '/') :
    nameChars (lead ++ '/' :: s) = nameChars s := by
  have hrev : ∃ c ∈ s.reverse, c ≠ '/' := by simpa using h
  have hdrop : (s.reverse ++ '/' :: lead.reverse).dropWhile isSlash =
      s.reverse.dropWhile isSlash ++ '/' :: lead.reverse := by
    rw [List.dropWhile_append, if_neg]
    simpa using dropWhile_isSlash_ne_nil hrev
  have htake : (s.reverse.dropWhile isSlash ++ '/' :: lead.reverse).takeWhile (!isSlash ·) =
      (s.reverse.dropWhile isSlash).takeWhile (!isSlash ·) := by
    rw [List.takeWhile_append]
    split
    · next hlength =>
      have hwhole := (List.takeWhile_prefix (p := (!isSlash ·))
        (l := s.reverse.dropWhile isSlash)).eq_of_length hlength
      rw [hwhole, List.takeWhile_cons_of_neg (by simp [isSlash]), List.append_nil]
    · rfl
  rw [nameChars, nameChars, List.reverse_append, List.reverse_cons, List.append_assoc,
    List.singleton_append, hdrop, htake]

theorem nameChars_dropEndWhile (s : List Char) :
    nameChars (Text.dropEndWhile (· == '/') s) = nameChars s := by
  have hsame : (fun c : Char => c == '/') = isSlash := rfl
  rw [nameChars, Text.dropEndWhile, List.reverse_reverse, hsame, List.dropWhile_idempotent,
    nameChars]

theorem nameChars_append {name : List Char} (lead : List Char) (hne : name ≠ [])
    (h : '/' ∉ name) : nameChars (lead ++ '/' :: name) = name := by
  obtain ⟨c, hc⟩ := List.exists_mem_of_ne_nil name hne
  rw [nameChars_suffix lead ⟨c, hc, ne_of_mem_of_not_mem hc h⟩, nameChars_of_not_mem h]

theorem nameChars_join {name : List Char} (lead : List (List Char)) (hne : name ≠ [])
    (h : '/' ∉ name) : nameChars (Text.join ['/'] (lead ++ [name])) = name := by
  cases lead with
  | nil => exact nameChars_of_not_mem h
  | cons first rest =>
      rw [Text.join_concat (List.cons_ne_nil first rest)]
      exact nameChars_append _ hne h

theorem name_append {name : String} (lead : String) (h : IsSegment name) :
    SelfLink.name (lead ++ "/" ++ name) = name := by
  have hchars := nameChars_append lead.toList h.1 h.2
  simp only [SelfLink.name, String.toList_append]
  rw [show "/".toList = ['/'] from rfl, List.append_assoc, List.singleton_append, hchars,
    String.ofList_toList]

end SelfLink

namespace Reference

variable {field value collection : String} {scope : Scope} {project location : Option String}
  {r : Reference} {segments : List String} {parts : Parts}

inductive Shape (collection : String) : Scope → List String → Parts → Prop
  | bare {scope : Scope} {name : String} : Shape collection scope [name] ⟨none, none, name⟩
  | project {p name : String} :
      Shape collection .project ["projects", p, collection, name] ⟨some p, none, name⟩
  | global {name : String} :
      Shape collection .global ["global", collection, name] ⟨none, none, name⟩
  | globalIn {p name : String} :
      Shape collection .global ["projects", p, "global", collection, name] ⟨some p, none, name⟩
  | placed {scope : Scope} {l name : String} : scope = .regional ∨ scope = .zonal →
      Shape collection scope [places scope, l, collection, name] ⟨none, some l, name⟩
  | placedIn {scope : Scope} {p l name : String} : scope = .regional ∨ scope = .zonal →
      Shape collection scope ["projects", p, places scope, l, collection, name]
        ⟨some p, some l, name⟩

theorem shape_of_parts? (h : parts? collection scope segments = some parts) :
    Shape collection scope segments parts := by
  unfold parts? at h
  split at h
  · cases h
    exact .bare
  · split at h
    · next hshape =>
        obtain ⟨rfl, rfl⟩ := hshape
        cases h
        exact .project
    · cases h
  · split at h
    · next hshape =>
        obtain ⟨rfl, rfl, rfl⟩ := hshape
        cases h
        exact .global
    · cases h
  · split at h
    · next hshape =>
        obtain ⟨hscope, rfl, rfl⟩ := hshape
        cases h
        exact .placed hscope
    · cases h
  · split at h
    · next hshape =>
        obtain ⟨rfl, rfl, rfl⟩ := hshape
        cases h
        exact .globalIn
    · cases h
  · split at h
    · next hshape =>
        obtain ⟨hscope, rfl, rfl⟩ := hshape
        cases h
        exact .placedIn hscope
    · cases h
  · cases h

theorem Shape.parts?_eq (h : Shape collection scope segments parts) :
    parts? collection scope segments = some parts := by
  cases h with
  | bare => rfl
  | project => simp [parts?]
  | global => simp [parts?]
  | globalIn => simp [parts?]
  | placed hscope => rcases hscope with rfl | rfl <;> simp [parts?, places]
  | placedIn hscope => rcases hscope with rfl | rfl <;> simp [parts?, places]

theorem Shape.last_segment (h : Shape collection scope segments parts) :
    ∃ lead, segments = lead ++ [parts.name] :=
  ⟨segments.dropLast, by cases h <;> rfl⟩

theorem Shape.name_mem (h : Shape collection scope segments parts) : parts.name ∈ segments := by
  obtain ⟨lead, rfl⟩ := h.last_segment
  simp

theorem Shape.project_mem (h : Shape collection scope segments parts) :
    ∀ text ∈ parts.project, text ∈ segments := by
  cases h <;> simp

theorem Shape.location_mem (h : Shape collection scope segments parts) :
    ∀ text ∈ parts.location, text ∈ segments := by
  cases h <;> simp

def depth : Scope → Nat
  | .project => 4
  | .global => 5
  | .regional => 6
  | .zonal => 6

theorem Shape.length_le (h : Shape collection scope segments parts) :
    segments.length ≤ depth scope := by
  cases h with
  | bare => cases scope <;> simp [depth]
  | project => simp [depth]
  | global => simp [depth]
  | globalIn => simp [depth]
  | placed hscope => rcases hscope with rfl | rfl <;> simp [depth]
  | placedIn hscope => rcases hscope with rfl | rfl <;> simp [depth]

theorem place_eq_ok_iff {said l : Option String} :
    place field value scope said location = .ok l ↔
      (l.isSome ↔ scope = .regional ∨ scope = .zonal) ∧
        ∀ text ∈ l, (said <|> location) = some text := by
  cases scope with
  | project => cases l <;> simp [place]
  | global => cases l <;> simp [place]
  | regional => cases hsaid : (said <|> location) <;> cases l <;> simp [place, hsaid]
  | zonal => cases hsaid : (said <|> location) <;> cases l <;> simp [place, hsaid]

theorem resolve_eq_ok (h : resolve field value collection scope project location = .ok r) :
    ∃ relative parts, stripUrl field value = .ok relative ∧
      (∀ piece ∈ Text.splitOn '/' relative, piece ≠ []) ∧
      Shape collection scope ((Text.splitOn '/' relative).map String.ofList) parts ∧
      (parts.project <|> project) = some r.project ∧
      place field value scope parts.location location = .ok r.location ∧
      r.collection = collection ∧ r.name = parts.name ∧ r.scope = scope := by
  unfold resolve at h
  obtain ⟨relative, hrelative, h⟩ := bind_eq_ok_iff.1 h
  dsimp only at h
  split at h
  · cases h
  next hfilled =>
    split at h
    · cases h
    next parts hparts =>
      split at h
      · cases h
      next project' hproject =>
        obtain ⟨location', hlocation, h⟩ := bind_eq_ok_iff.1 h
        cases h
        refine ⟨relative, parts, hrelative, ?_, shape_of_parts? hparts, hproject, hlocation, rfl,
          rfl, rfl⟩
        intro piece hpiece hnil
        subst hnil
        exact hfilled (by simpa using hpiece)

theorem kind_of_resolve (h : resolve field value collection scope project location = .ok r) :
    r.collection = collection ∧ r.scope = scope := by
  obtain ⟨_, _, _, _, _, _, _, hcollection, _, hscope⟩ := resolve_eq_ok h
  exact ⟨hcollection, hscope⟩

theorem isSegment_of_resolve
    (h : resolve field value collection scope project location = .ok r) : IsSegment r.name := by
  obtain ⟨relative, parts, _, hfilled, hshape, _, _, _, hname, _⟩ := resolve_eq_ok h
  rw [hname]
  exact isSegment_of_mem_splitOn hfilled hshape.name_mem

theorem parts_of_resolve
    (h : resolve field value collection scope project location = .ok r) :
    (IsSegment r.project ∨ project = some r.project) ∧
      ∀ text ∈ r.location, IsSegment text ∨ location = some text := by
  obtain ⟨relative, parts, _, hfilled, hshape, hproject, hplace, _⟩ := resolve_eq_ok h
  have hfrom : ∀ {said fallback : Option String} {text : String},
      (∀ text ∈ said, text ∈ (Text.splitOn '/' relative).map String.ofList) →
      (said <|> fallback) = some text → IsSegment text ∨ fallback = some text := by
    intro said fallback text hsaid htext
    cases said with
    | none => exact .inr htext
    | some said =>
        cases htext
        exact .inl (isSegment_of_mem_splitOn hfilled (hsaid text rfl))
  exact ⟨hfrom hshape.project_mem hproject,
    fun text htext => hfrom hshape.location_mem ((place_eq_ok_iff.1 hplace).2 text htext)⟩

theorem isEmpty_of_resolve (h : resolve field value collection scope project location = .ok r) :
    value.isEmpty = false := by
  obtain ⟨relative, _, hstrip, hfilled, _⟩ := resolve_eq_ok h
  rw [Bool.eq_false_iff]
  intro hempty
  rw [String.isEmpty_iff.1 hempty] at hstrip
  cases hstrip
  exact hfilled [] (by simp [Text.splitOn]) rfl

theorem nameChars_of_resolve {relative : List Char}
    (h : resolve field value collection scope project location = .ok r)
    (hrelative : stripUrl field value = .ok relative) :
    SelfLink.nameChars relative = r.name.toList := by
  obtain ⟨relative', parts, hrelative', _, hshape, _, _, _, hname, _⟩ := resolve_eq_ok h
  rw [hrelative, Except.ok.injEq] at hrelative'
  subst hrelative'
  obtain ⟨lead, hlead⟩ := hshape.last_segment
  have hpieces : Text.splitOn '/' relative = lead.map String.toList ++ [r.name.toList] := by
    have htexts := congrArg (List.map String.toList) hlead
    simpa [List.map_map, Function.comp_def, hname] using htexts
  have hsegment := isSegment_of_resolve h
  rw [← Text.join_splitOn '/' relative, hpieces]
  exact SelfLink.nameChars_join _ hsegment.1 hsegment.2

def Located (r : Reference) : Prop :=
  r.location.isSome ↔ r.scope = .regional ∨ r.scope = .zonal

theorem located_of_resolve
    (h : resolve field value collection scope project location = .ok r) : r.Located := by
  obtain ⟨relative, parts, _, _, _, _, hplace, _, _, hscope⟩ := resolve_eq_ok h
  rw [Located, hscope]
  exact (place_eq_ok_iff.1 hplace).1

def pieces (r : Reference) : List String :=
  match r.scope, r.location with
  | .project, _ => ["projects", r.project, r.collection, r.name]
  | .global, _ => ["projects", r.project, "global", r.collection, r.name]
  | scope, some location =>
      ["projects", r.project, places scope, location, r.collection, r.name]
  | _, none => ["projects", r.project, r.collection, r.name]

theorem toList_relativeLink (r : Reference) :
    r.relativeLink.toList = Text.join ['/'] (r.pieces.map String.toList) := by
  obtain ⟨p, l, c, n, scope⟩ := r
  cases scope <;> cases l <;> simp [relativeLink, pieces, Text.join, places]

theorem isEmpty_relativeLink (r : Reference) : r.relativeLink.isEmpty = false := by
  obtain ⟨p, l, c, n, scope⟩ := r
  cases scope <;> cases l <;> simp [relativeLink]

theorem name_relativeLink (h : IsSegment r.name) : SelfLink.name r.relativeLink = r.name := by
  unfold relativeLink
  split <;> exact SelfLink.name_append _ h

theorem stripUrl_relativeLink (field : String) (r : Reference) :
    stripUrl field r.relativeLink = .ok r.relativeLink.toList := by
  have hurl : isUrl r.relativeLink.toList = false := by
    obtain ⟨p, l, c, n, scope⟩ := r
    cases scope <;> cases l <;> simp [relativeLink, isUrl, List.isPrefixOf]
  simp [stripUrl, hurl]

theorem shape_pieces (h : r.Located) :
    Shape r.collection r.scope r.pieces ⟨some r.project, r.location, r.name⟩ := by
  obtain ⟨p, l, c, n, scope⟩ := r
  cases scope <;> cases l <;> simp [Located] at h
  · exact .project
  · exact .globalIn
  · exact .placedIn (.inl rfl)
  · exact .placedIn (.inr rfl)

theorem place_location (h : r.Located) :
    place field value r.scope r.location location = .ok r.location := by
  refine place_eq_ok_iff.2 ⟨h, ?_⟩
  rintro text htext
  rw [htext]
  rfl

theorem pieces_ne_nil (r : Reference) : r.pieces ≠ [] := by
  unfold pieces
  split <;> exact List.cons_ne_nil _ _

theorem splitOn_relativeLink (h : ∀ piece ∈ r.pieces, '/' ∉ piece.toList) :
    Text.splitOn '/' r.relativeLink.toList = r.pieces.map String.toList := by
  rw [toList_relativeLink]
  apply Text.splitOn_join (by simp [pieces_ne_nil])
  intro piece hpiece
  obtain ⟨text, htext, rfl⟩ := List.mem_map.1 hpiece
  exact h text htext

theorem resolve_of_shape {p : String} {l : Option String}
    (hstrip : stripUrl field value = .ok (Text.join ['/'] (segments.map String.toList)))
    (hsegments : ∀ piece ∈ segments, IsSegment piece)
    (hshape : Shape collection scope segments parts)
    (hproject : (parts.project <|> project) = some p)
    (hplace : place field value scope parts.location location = .ok l) :
    resolve field value collection scope project location =
      .ok ⟨p, l, collection, parts.name, scope⟩ := by
  obtain ⟨_, hlast⟩ := hshape.last_segment
  have hsplit : Text.splitOn '/' (Text.join ['/'] (segments.map String.toList)) =
      segments.map String.toList := by
    apply Text.splitOn_join (by simp [hlast])
    exact List.forall_mem_map.2 fun piece hpiece => (hsegments piece hpiece).2
  have hback : (segments.map String.toList).map String.ofList = segments := by simp
  have hfilled : segments.any (·.isEmpty) = false := by
    rw [List.any_eq_false]
    intro piece hpiece
    simpa [String.isEmpty_iff] using (hsegments piece hpiece).1
  simp only [resolve, hstrip, bind, Except.bind, hsplit, hback, hfilled, hshape.parts?_eq, hproject,
    hplace]
  rfl

theorem resolve_of_link (hstrip : stripUrl field value = .ok r.relativeLink.toList)
    (hlocated : r.Located) (h : ∀ piece ∈ r.pieces, IsSegment piece) :
    resolve field value r.collection r.scope project location = .ok r := by
  rw [toList_relativeLink] at hstrip
  exact resolve_of_shape hstrip h (shape_pieces hlocated) rfl (place_location hlocated)

theorem resolve_relativeLink (hlocated : r.Located) (h : ∀ piece ∈ r.pieces, IsSegment piece) :
    resolve field r.relativeLink r.collection r.scope project location = .ok r :=
  resolve_of_link (stripUrl_relativeLink field r) hlocated h

theorem length_pieces (h : r.Located) : r.pieces.length = depth r.scope := by
  obtain ⟨p, l, c, n, scope⟩ := r
  cases scope <;> cases l <;> simp [Located] at h <;> rfl

theorem isSegment_of_resolve_relativeLink {r' : Reference} (hlocated : r.Located)
    (h : resolve field r.relativeLink r.collection r.scope project location = .ok r') :
    ∀ piece ∈ r.pieces, IsSegment piece := by
  obtain ⟨relative, parts, hrelative, hfilled, hshape, _⟩ := resolve_eq_ok h
  rw [stripUrl_relativeLink, Except.ok.injEq] at hrelative
  subst hrelative
  have hlength := hshape.length_le
  have hsome : r.pieces.map String.toList ≠ [] := by simp [pieces_ne_nil]
  have hslashes := @Text.count_join '/' _ hsome
  rw [List.length_map, Text.length_splitOn, ← length_pieces hlocated, toList_relativeLink,
    hslashes, List.length_map] at hlength
  have hnone : ∀ piece ∈ r.pieces, '/' ∉ piece.toList := by
    have hsum : ((r.pieces.map String.toList).map (·.count '/')).sum = 0 := by omega
    intro piece hpiece
    have hcount := List.sum_eq_zero_iff_forall_eq_nat.1 hsum (piece.toList.count '/')
      (List.mem_map_of_mem (List.mem_map_of_mem hpiece))
    exact List.count_eq_zero.1 hcount
  intro piece hpiece
  refine ⟨hfilled _ ?_, hnone piece hpiece⟩
  rw [splitOn_relativeLink hnone]
  exact List.mem_map_of_mem hpiece

inductive Linked (resolve : String → Except Failure Reference) :
    Option String → Option Reference → Prop
  | none : Linked resolve none none
  | some {value : String} {r : Reference} : resolve value = .ok r →
      Linked resolve (some value) (some r)

theorem linked_iff {resolve : String → Except Failure Reference} {declared : Option String}
    {linked : Option Reference} :
    Linked resolve declared linked ↔ declared.mapM resolve = .ok linked := by
  constructor
  · intro h
    cases h with
    | none => rfl
    | some hr => simp [hr]
  · intro h
    cases declared with
    | none =>
        cases h
        exact .none
    | some value =>
        obtain ⟨r, hr, rfl⟩ := map_eq_ok_iff.1 h
        exact .some hr

theorem exists_of_linked {resolve : String → Except Failure Reference} {declared : Option String}
    {linked : Option Reference} (h : Linked resolve declared linked) :
    ∀ x ∈ linked, ∃ value, declared = some value ∧ resolve value = .ok x := by
  cases h with
  | none => exact nofun
  | some hr =>
      rintro x ⟨⟩
      exact ⟨_, rfl, hr⟩

end Reference

end Reconcile
