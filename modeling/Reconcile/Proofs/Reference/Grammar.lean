import Reconcile.Proofs.Reference.Link

namespace Reconcile.Reference

inductive Hole
  | project
  | place
  | name
  deriving DecidableEq, Repr

def Hole.label (scope : Scope) : Hole → String
  | .project => "project"
  | .place => if scope = .regional then "region" else "zone"
  | .name => "name"

inductive Slot
  | word (text : String)
  | part (hole : Hole)
  deriving DecidableEq, Repr

def Slot.fill (fill : Hole → String) : Slot → String
  | .word text => text
  | .part hole => fill hole

def spell (fill : Hole → String) (form : List Slot) : String :=
  "/".intercalate (form.map (Slot.fill fill))

def shown (scope : Scope) (hole : Hole) : String := "\x7b" ++ hole.label scope ++ "\x7d"

def placedForms (places collection : String) : List (List Slot) := [
  [.word "projects", .part .project, .word places, .part .place, .word collection, .part .name],
  [.word places, .part .place, .word collection, .part .name],
  [.part .name]]

def forms (collection : String) : Scope → List (List Slot)
  | .project => [
      [.word "projects", .part .project, .word collection, .part .name],
      [.part .name]]
  | .global => [
      [.word "projects", .part .project, .word "global", .word collection, .part .name],
      [.word "global", .word collection, .part .name],
      [.part .name]]
  | .regional => placedForms "regions" collection
  | .zonal => placedForms "zones" collection

variable {field value collection : String} {scope : Scope} {project location : Option String}
  {r : Reference} {segments : List String} {parts : Parts} {form : List Slot}
  {fill : Hole → String} {relative : List Char} {e : Failure}

theorem shapes_eq_shown (collection : String) (scope : Scope) :
    shapes collection scope = (forms collection scope).map (spell (shown scope)) := by
  cases scope <;>
    simp [shapes, forms, placedForms, spell, Slot.fill, shown, Hole.label, ← String.toList_inj]

def own (fill : Hole → String) (form : List Slot) (hole : Hole) : Option String :=
  if .part hole ∈ form then some (fill hole) else none

/-- A value says what stands in the holes of a form that it spells. -/
inductive Says (collection : String) (scope : Scope) (value : String) : Parts → Prop
  | of {form : List Slot} {fill : Hole → String} : form ∈ forms collection scope →
      (∀ hole, .part hole ∈ form → IsSegment (fill hole)) → value = spell fill form →
      Says collection scope value ⟨own fill form .project, own fill form .place, fill .name⟩

def said? (collection : String) (scope : Scope) (relative : List Char) : Option Parts :=
  let segments := (Text.splitOn '/' relative).map String.ofList
  if segments.any (·.isEmpty) then none else parts? collection scope segments

theorem said?_eq_some_iff :
    said? collection scope relative = some parts ↔
      (∀ piece ∈ Text.splitOn '/' relative, piece ≠ []) ∧
        Shape collection scope ((Text.splitOn '/' relative).map String.ofList) parts := by
  have hany : ((Text.splitOn '/' relative).map String.ofList).any (·.isEmpty) = false ↔
      ∀ piece ∈ Text.splitOn '/' relative, piece ≠ [] := by
    simp [String.isEmpty_iff]
  unfold said?
  dsimp only
  split
  · next hempty => simp [← hany, hempty]
  · next hfilled =>
      rw [← hany]
      rw [Bool.not_eq_true] at hfilled
      exact ⟨fun h => ⟨hfilled, shape_of_parts? h⟩, fun h => h.2.parts?_eq⟩

theorem shape_of_placedForm (hscope : scope = .regional ∨ scope = .zonal)
    (h : form ∈ placedForms (places scope) collection) (fill : Hole → String) :
    Shape collection scope (form.map (Slot.fill fill))
      ⟨own fill form .project, own fill form .place, fill .name⟩ := by
  simp only [placedForms, List.mem_cons, List.not_mem_nil, or_false] at h
  rcases h with rfl | rfl | rfl
  · exact .placedIn hscope
  · exact .placed hscope
  · exact .bare

theorem shape_of_form (h : form ∈ forms collection scope) (fill : Hole → String) :
    Shape collection scope (form.map (Slot.fill fill))
      ⟨own fill form .project, own fill form .place, fill .name⟩ := by
  cases scope with
  | project =>
      simp only [forms, List.mem_cons, List.not_mem_nil, or_false] at h
      rcases h with rfl | rfl
      · exact .project
      · exact .bare
  | global =>
      simp only [forms, List.mem_cons, List.not_mem_nil, or_false] at h
      rcases h with rfl | rfl | rfl
      · exact .globalIn
      · exact .global
      · exact .bare
  | regional => exact shape_of_placedForm (.inl rfl) h fill
  | zonal => exact shape_of_placedForm (.inr rfl) h fill

def Parts.text (parts : Parts) : Hole → String
  | .project => parts.project.getD ""
  | .place => parts.location.getD ""
  | .name => parts.name

theorem Shape.exists_form (h : Shape collection scope segments parts) :
    ∃ form ∈ forms collection scope, form.map (Slot.fill parts.text) = segments ∧
      parts = ⟨own parts.text form .project, own parts.text form .place, parts.name⟩ := by
  cases h with
  | @bare name =>
      refine ⟨[.part .name], ?_, rfl, rfl⟩
      cases scope <;> simp [forms, placedForms]
  | project => exact ⟨_, .head _, rfl, rfl⟩
  | global => exact ⟨_, .tail _ (.head _), rfl, rfl⟩
  | globalIn => exact ⟨_, .head _, rfl, rfl⟩
  | placed hscope =>
      rcases hscope with rfl | rfl
      · exact ⟨_, .tail _ (.head _), rfl, rfl⟩
      · exact ⟨_, .tail _ (.head _), rfl, rfl⟩
  | placedIn hscope =>
      rcases hscope with rfl | rfl
      · exact ⟨_, .head _, rfl, rfl⟩
      · exact ⟨_, .head _, rfl, rfl⟩

theorem isSegment_of_word {text : String} (hcollection : IsSegment collection)
    (h : form ∈ forms collection scope) (hword : .word text ∈ form) : IsSegment text := by
  have hlisted : ∀ form ∈ forms collection scope, ∀ text, .word text ∈ form →
      text ∈ ["projects", "global", "regions", "zones", collection] := by
    cases scope <;> simp [forms, placedForms]
  have hmem := hlisted form h text hword
  simp only [List.mem_cons, List.not_mem_nil, or_false] at hmem
  rcases hmem with rfl | rfl | rfl | rfl | rfl
  · decide
  · decide
  · decide
  · decide
  · exact hcollection

theorem isSegment_of_form (hcollection : IsSegment collection) (h : form ∈ forms collection scope)
    (hfill : ∀ hole, .part hole ∈ form → IsSegment (fill hole)) :
    ∀ segment ∈ form.map (Slot.fill fill), IsSegment segment := by
  intro segment hsegment
  obtain ⟨slot, hslot, rfl⟩ := List.mem_map.1 hsegment
  cases slot with
  | word text => exact isSegment_of_word hcollection h hslot
  | part hole => exact hfill hole hslot

theorem toList_spell (fill : Hole → String) (form : List Slot) :
    (spell fill form).toList =
      Text.join ['/'] ((form.map (Slot.fill fill)).map String.toList) := by
  rw [spell, String.toList_intercalate, Text.join_eq_intercalate]
  rfl

theorem says_iff (hcollection : IsSegment collection) :
    Says collection scope value parts ↔ said? collection scope value.toList = some parts := by
  rw [said?_eq_some_iff]
  constructor
  · intro h
    cases h with
    | @of form fill hform hfill hvalue =>
        have hsegments := isSegment_of_form hcollection hform hfill
        have hshape := shape_of_form hform fill
        obtain ⟨_, hlast⟩ := hshape.last_segment
        have hsplit : Text.splitOn '/' value.toList =
            (form.map (Slot.fill fill)).map String.toList := by
          rw [hvalue, toList_spell]
          exact Text.splitOn_join (by simp [hlast])
            (List.forall_mem_map.2 fun piece hpiece => (hsegments piece hpiece).2)
        have hback : ((form.map (Slot.fill fill)).map String.toList).map String.ofList =
            form.map (Slot.fill fill) := by
          simp [Function.comp_def]
        rw [hsplit, hback]
        exact ⟨List.forall_mem_map.2 fun piece hpiece => (hsegments piece hpiece).1, hshape⟩
  · rintro ⟨hfilled, hshape⟩
    obtain ⟨form, hform, hsegments, hparts⟩ := hshape.exists_form
    have hvalue : value = spell parts.text form := by
      rw [← String.toList_inj, toList_spell, hsegments, List.map_map]
      simp [Function.comp_def, Text.join_splitOn]
    have hholes : ∀ hole, .part hole ∈ form → IsSegment (parts.text hole) := by
      intro hole hhole
      apply isSegment_of_mem_splitOn hfilled
      rw [← hsegments]
      exact List.mem_map_of_mem hhole
    rw [hparts]
    exact .of hform hholes hvalue

/-- What a value says and the fallbacks make up a reference: a fallback stands in only for what the
value leaves out. -/
structure Completes (parts : Parts) (project location : Option String) (r : Reference) : Prop where
  project : (parts.project <|> project) = some r.project
  located : r.Located
  location : ∀ text ∈ r.location, (parts.location <|> location) = some text
  name : r.name = parts.name

inductive Lacks (scope : Scope) (parts : Parts) (project location : Option String) : Hole → Prop
  | project : (parts.project <|> project) = none → Lacks scope parts project location .project
  | place : scope = .regional ∨ scope = .zonal → (parts.project <|> project).isSome →
      (parts.location <|> location) = none → Lacks scope parts project location .place

theorem resolve_eq (hstrip : stripUrl field value = .ok relative) :
    resolve field value collection scope project location =
      match said? collection scope relative with
      | none =>
          .error (.invalidReference field value (", ".intercalate (shapes collection scope)))
      | some parts =>
          match parts.project <|> project with
          | none => .error (.invalid field (.unplaced value "project"))
          | some project =>
              (place field value scope parts.location location).map fun location =>
                ⟨project, location, collection, parts.name, scope⟩ := by
  simp only [resolve, said?, hstrip, bind, Except.bind]
  cases ((Text.splitOn '/' relative).map String.ofList).any (·.isEmpty) with
  | true => rfl
  | false =>
      simp only [Bool.false_eq_true, if_false]
      cases parts? collection scope ((Text.splitOn '/' relative).map String.ofList) with
      | none => rfl
      | some parts =>
          dsimp only
          cases parts.project <|> project with
          | none => rfl
          | some project =>
              cases place field value scope parts.location location <;> rfl

theorem place_eq_error_iff {said : Option String} :
    place field value scope said location = .error e ↔
      (scope = .regional ∨ scope = .zonal) ∧ (said <|> location) = none ∧
        e = .invalid field (.unplaced value (Hole.place.label scope)) := by
  cases scope with
  | project => simp [place]
  | global => simp [place]
  | regional => cases hsaid : (said <|> location) <;> simp [place, hsaid, Hole.label, eq_comm]
  | zonal => cases hsaid : (said <|> location) <;> simp [place, hsaid, Hole.label, eq_comm]

theorem resolve_eq_ok_iff (hstrip : stripUrl field value = .ok relative) :
    resolve field value collection scope project location = .ok r ↔
      r.collection = collection ∧ r.scope = scope ∧
        ∃ parts, said? collection scope relative = some parts ∧
          Completes parts project location r := by
  rw [resolve_eq hstrip]
  constructor
  · intro h
    split at h
    · cases h
    · next parts hsaid =>
        split at h
        · cases h
        · next project' hproject =>
            obtain ⟨location', hplace, rfl⟩ := map_eq_ok_iff.1 h
            obtain ⟨hlocated, hlocation⟩ := place_eq_ok_iff.1 hplace
            exact ⟨rfl, rfl, parts, hsaid, hproject, hlocated, hlocation, rfl⟩
  · obtain ⟨project', location', collection', name, scope'⟩ := r
    rintro ⟨rfl, rfl, parts, hsaid, hproject, hlocated, hlocation, rfl⟩
    have hplace : place field value scope' parts.location location = .ok location' :=
      place_eq_ok_iff.2 ⟨hlocated, hlocation⟩
    simp only [hsaid, hproject, hplace, Except.map]

theorem resolve_eq_error_iff (hstrip : stripUrl field value = .ok relative) :
    resolve field value collection scope project location = .error e ↔
      said? collection scope relative = none ∧
          e = .invalidReference field value (", ".intercalate (shapes collection scope)) ∨
        ∃ parts hole, said? collection scope relative = some parts ∧
          Lacks scope parts project location hole ∧
            e = .invalid field (.unplaced value (hole.label scope)) := by
  rw [resolve_eq hstrip]
  constructor
  · intro h
    split at h
    · next hsaid =>
        cases h
        exact .inl ⟨hsaid, rfl⟩
    · next parts hsaid =>
        right
        split at h
        · next hproject =>
            cases h
            exact ⟨parts, .project, hsaid, .project hproject, rfl⟩
        · next project' hproject =>
            obtain ⟨hscope, hlocation, rfl⟩ := place_eq_error_iff.1 (map_eq_error_iff.1 h)
            exact ⟨parts, .place, hsaid, .place hscope (by rw [hproject]; rfl) hlocation, rfl⟩
  · rintro (⟨hsaid, rfl⟩ | ⟨parts, hole, hsaid, hlacks, rfl⟩)
    · rw [hsaid]
    · cases hlacks with
      | project hproject =>
          simp only [hsaid, hproject]
          rfl
      | place hscope hproject hlocation =>
          obtain ⟨project', hproject⟩ := Option.isSome_iff_exists.1 hproject
          simp only [hsaid, hproject]
          exact map_eq_error_iff.2 (place_eq_error_iff.2 ⟨hscope, hlocation, rfl⟩)

theorem exists_resolve_iff (hstrip : stripUrl field value = .ok relative) :
    (∃ r, resolve field value collection scope project location = .ok r) ↔
      ∃ parts, said? collection scope relative = some parts ∧
        ∀ hole, ¬ Lacks scope parts project location hole := by
  constructor
  · rintro ⟨r, hr⟩
    obtain ⟨_, _, parts, hsaid, _⟩ := (resolve_eq_ok_iff hstrip).1 hr
    refine ⟨parts, hsaid, fun hole hlacks => ?_⟩
    have herror := (resolve_eq_error_iff hstrip).2 (.inr ⟨parts, hole, hsaid, hlacks, rfl⟩)
    cases hr.symm.trans herror
  · rintro ⟨parts, hsaid, hwhole⟩
    cases hr : resolve field value collection scope project location with
    | ok r => exact ⟨r, rfl⟩
    | error e =>
        rcases (resolve_eq_error_iff hstrip).1 hr with
          ⟨hnone, _⟩ | ⟨_, hole, hsaid', hlacks, _⟩
        · cases hsaid.symm.trans hnone
        · cases hsaid.symm.trans hsaid'
          exact absurd hlacks (hwhole hole)

/-- A path resolves if and only if it spells one of the forms of its scope and no hole of the
reference stays open; each part is the path's own, or else the fallback. A path that spells none of
the forms is shown all of them; one that leaves a hole open is told the first. -/
theorem resolve_grammar (field : String) (scope : Scope) (project location : Option String)
    (hcollection : IsSegment collection) (hurl : isUrl value.toList = false) :
    shapes collection scope = (forms collection scope).map (spell (shown scope)) ∧
      ((∃ r, resolve field value collection scope project location = .ok r) ↔
        ∃ parts, Says collection scope value parts ∧
          ∀ hole, ¬ Lacks scope parts project location hole) ∧
      (∀ r, resolve field value collection scope project location = .ok r ↔
        r.collection = collection ∧ r.scope = scope ∧
          ∃ parts, Says collection scope value parts ∧ Completes parts project location r) ∧
      ∀ e, resolve field value collection scope project location = .error e ↔
        (∀ parts, ¬ Says collection scope value parts) ∧
            e = .invalidReference field value (", ".intercalate (shapes collection scope)) ∨
          ∃ parts hole, Says collection scope value parts ∧
            Lacks scope parts project location hole ∧
              e = .invalid field (.unplaced value (hole.label scope)) := by
  have hstrip : stripUrl field value = .ok value.toList := by simp [stripUrl, hurl]
  simp only [says_iff hcollection, ← Option.eq_none_iff_forall_ne_some]
  exact ⟨shapes_eq_shown collection scope, exists_resolve_iff hstrip,
    fun _ => resolve_eq_ok_iff hstrip, fun _ => resolve_eq_error_iff hstrip⟩

theorem own_zone_kept :
    resolve "next_hop_instance" "zones/us-central1-b/instances/nat" "instances" .zonal (some "p1")
        (some "us-east1-c") =
      .ok ⟨"p1", some "us-central1-b", "instances", "nat", .zonal⟩ := by
  have hcollection : IsSegment "instances" := by decide
  have hurl : isUrl "zones/us-central1-b/instances/nat".toList = false := by decide
  have hsays : Says "instances" .zonal "zones/us-central1-b/instances/nat"
      ⟨none, some "us-central1-b", "nat"⟩ := (says_iff hcollection).2 rfl
  obtain ⟨_, _, hok, _⟩ := resolve_grammar "next_hop_instance" .zonal (some "p1")
    (some "us-east1-c") hcollection hurl
  refine (hok _).2 ⟨rfl, rfl, _, hsays, rfl, by simp [Located], ?_, rfl⟩
  rintro text ⟨⟩
  rfl

end Reconcile.Reference
