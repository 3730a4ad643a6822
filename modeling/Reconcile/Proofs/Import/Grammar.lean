import Mathlib.Data.List.Nodup
import Mathlib.Data.List.Perm.Basic
import Reconcile.Proofs.Import.Resolution
import Reconcile.Proofs.Network.Paths
import Reconcile.Proofs.Network.Stability
import Reconcile.Proofs.Template.Inverse

namespace Reconcile

namespace Template

variable {fields : Fields} {text : String} {t : Template} {values : List String}

theorem slashes_of_parse (h : t.parse text = some fields) :
    text.toList.count '/' = slashes t.segments := by
  obtain ⟨values, hspells, hfree, _⟩ := parse_eq_some h
  exact hspells.slashFree_iff.2.1 hfree

theorem get?_zip (hnames : t.names.Nodup) (hlength : values.length = t.names.length)
    {name : String} (hname : name ∈ t.names) :
    ∃ value ∈ values, Keyed.get? name (Keyed.ofList (t.names.zip values)) = some value := by
  have hkeys : (t.names.zip values).map (·.1) = t.names := List.map_fst_zip hlength.ge
  obtain ⟨e, he, rfl⟩ := List.mem_map.1 (hkeys ▸ hname)
  refine ⟨e.2, (List.of_mem_zip he).2, ?_⟩
  rw [Keyed.get?_ofList]
  apply Keyed.get?_of_nodup _ (List.mem_reverse.2 he)
  rw [List.map_reverse, List.nodup_reverse, hkeys]
  exact hnames

theorem parse_eq_some_iff_zip (hvalid : t.Valid) (hsep : Separated false t.segments) :
    t.parse text = some fields ↔ ∃ values : List String, values.length = t.names.length ∧
      (∀ value ∈ values, IsSegment value) ∧ fields = Keyed.ofList (t.names.zip values) ∧
      text.toList = t.segments.flatMap (Segment.value fields) := by
  have hnames := (valid_iff.1 hvalid).2
  constructor
  · intro h
    obtain ⟨entries, hspells, hfree, rfl⟩ := parse_eq_some h
    have hzip : entries = t.names.zip (entries.map (·.2)) := List.zip_of_prod hspells.names rfl
    refine ⟨entries.map (·.2), ?_, ?_, congrArg _ hzip, render_eq (render_of_parse hnames h)⟩
    · rw [← hspells.names, List.length_map, List.length_map]
    · intro value hvalue
      obtain ⟨e, he, rfl⟩ := List.mem_map.1 hvalue
      exact hspells.isSegment hfree e he
  · rintro ⟨values, hlength, hsegments, rfl, htext⟩
    have hsaid : ∀ name ∈ t.names, ∃ value,
        Keyed.get? name (Keyed.ofList (t.names.zip values)) = some value ∧ IsSegment value := by
      intro name hname
      obtain ⟨value, hvalue, hget⟩ := get?_zip hnames hlength hname
      exact ⟨value, hget, hsegments value hvalue⟩
    obtain ⟨rendered, hrender⟩ := render_ok_iff.2 fun name hname => by
      obtain ⟨value, hget, hvalue⟩ := hsaid name hname
      exact filled_of_get? hget hvalue.isEmpty
    refine (parse_eq_some_iff hvalid hsep).2 ⟨?_, hsaid, ?_⟩
    · exact covers_ofList fun e he => (List.of_mem_zip he).1
    · rw [hrender, String.toList_injective ((render_eq hrender).trans htext.symm)]

end Template

def Kind.importForms {σ : Type} (k : Kind σ) : List Template := [k.selfPath, k.id, ⟨"{name}"⟩]

theorem Kind.id_mem_importForms {σ : Type} (k : Kind σ) : k.id ∈ k.importForms :=
  List.mem_cons_of_mem _ List.mem_cons_self

theorem Kind.exists_form_iff {σ : Type} {k : Kind σ} {id : String} {said : Fields} :
    (∃ t ∈ k.importForms, t.parse id = some said) ↔ k.selfPath.parse id = some said ∨
      k.id.parse id = some said ∨ (⟨"{name}"⟩ : Template).parse id = some said := by
  simp [importForms]

/-- The patterns stand for the forms, which have different numbers of slashes and no fields but
those of the id. -/
structure Kind.Importable {σ : Type} (k : Kind σ) : Prop where
  stands : List.Forall₂ ImportId.StandsFor k.importPatterns k.importForms
  valid : ∀ t ∈ k.importForms, t.Valid
  separated : ∀ t ∈ k.importForms, Template.Separated false t.segments
  apart : (k.importForms.map (Template.slashes ·.segments)).Nodup
  named : ∀ t ∈ k.importForms, ∀ name ∈ t.names, name ∈ k.id.names
  alike : k.selfPath.names = k.id.names

theorem Address.kind_importable : Address.kind.Importable where
  stands := by
    refine .cons ?_ (.cons ?_ (.cons ?_ .nil))
    · decide +kernel
    · decide +kernel
    · decide +kernel
  valid := by decide +kernel
  separated := by decide +kernel
  apart := by decide +kernel
  named := by decide +kernel
  alike := by decide +kernel

theorem Route.kind_importable : Route.kind.Importable where
  stands := by
    refine .cons ?_ (.cons ?_ (.cons ?_ .nil))
    · decide +kernel
    · decide +kernel
    · decide +kernel
  valid := by decide +kernel
  separated := by decide +kernel
  apart := by decide +kernel
  named := by decide +kernel
  alike := by decide +kernel

theorem Family.kind_importable : (f : Family) → f.kind.Importable
  | .address => Address.kind_importable
  | .route => Route.kind_importable

def ImportId.Matches (raw id : String) : Prop :=
  ∃ form, ImportId.form raw = .ok form ∧ (form.match? id).isSome

theorem ImportId.StandsFor.matches_iff {raw id : String} {t : Template} (h : StandsFor raw t)
    (hvalid : t.Valid) : Matches raw id ↔ ∃ said, t.parse id = some said := by
  have hmatch : (Form.ofTemplate raw t).match? id = t.parse id :=
    Template.match?_compiled hvalid raw id
  rw [← Option.isSome_iff_exists, ← hmatch]
  constructor
  · rintro ⟨form, hform, hsome⟩
    rw [form_of_standsFor h, Except.ok.injEq] at hform
    rwa [hform]
  · intro hsome
    exact ⟨_, form_of_standsFor h, hsome⟩

namespace Kind.Importable

variable {σ : Type} {k : Kind σ} {id raw raw' : String} {said said' : Fields} {t u : Template}
  {forms : List Template}

theorem unique (hk : k.Importable) (ht : t ∈ k.importForms) (hu : u ∈ k.importForms)
    (h : t.parse id = some said) (h' : u.parse id = some said') : t = u := by
  apply List.inj_on_of_nodup_map hk.apart ht hu
  rw [← Template.slashes_of_parse h, ← Template.slashes_of_parse h']

theorem eq_of_matches (hk : k.Importable) (hraw : raw ∈ k.importPatterns)
    (hraw' : raw' ∈ k.importPatterns) (h : ImportId.Matches raw id)
    (h' : ImportId.Matches raw' id) : raw = raw' := by
  obtain ⟨hlength, hstands⟩ := List.forall₂_iff_get.1 hk.stands
  obtain ⟨i, rfl⟩ := List.get_of_mem hraw
  obtain ⟨j, rfl⟩ := List.get_of_mem hraw'
  have hreads : ∀ i : Fin k.importPatterns.length, ImportId.Matches (k.importPatterns.get i) id →
      ∃ said, (k.importForms.get (i.cast hlength)).parse id = some said := fun i h =>
    ((hstands i i.2 (i.cast hlength).2).matches_iff (hk.valid _ (List.get_mem _ _))).1 h
  obtain ⟨said, hsaid⟩ := hreads i h
  obtain ⟨said', hsaid'⟩ := hreads j h'
  have hsame := hk.unique (List.get_mem _ _) (List.get_mem _ _) hsaid hsaid'
  have hindex := List.nodup_iff_injective_get.1 (List.Nodup.of_map _ hk.apart) hsame
  have hval := Fin.ext_iff.1 hindex
  have hij : i = j := Fin.ext hval
  rw [hij]

theorem findSome?_eq_some_iff (hk : k.Importable) (hforms : forms.Perm k.importForms) :
    forms.findSome? (·.parse id) = some said ↔ ∃ t ∈ k.importForms, t.parse id = some said := by
  constructor
  · intro h
    obtain ⟨t, ht, hsaid⟩ := List.exists_of_findSome?_eq_some h
    exact ⟨t, hforms.mem_iff.1 ht, hsaid⟩
  · rintro ⟨t, ht, hsaid⟩
    cases h : forms.findSome? (·.parse id) with
    | none =>
        have hnone := List.findSome?_eq_none_iff.1 h t (hforms.mem_iff.2 ht)
        rw [hsaid] at hnone
        cases hnone
    | some said' =>
        obtain ⟨u, hu, hsaid'⟩ := List.exists_of_findSome?_eq_some h
        rw [hk.unique (hforms.mem_iff.1 hu) ht hsaid' hsaid, hsaid] at hsaid'
        exact hsaid'.symm

variable {patterns : List String} {defaults fields : Fields} {s : Session}

theorem exists_resolve (hk : k.Importable) (horder : patterns.Perm k.importPatterns)
    (id : String) (defaults : Fields) (s : Session) :
    ∃ forms : List Template, forms.Perm k.importForms ∧
      (ImportId.resolve id patterns defaults s).1 =
        match forms.findSome? (·.parse id) with
        | none => .error (.noPatternMatched id patterns)
        | some said => .ok (ImportId.fill defaults said k.id.names) := by
  obtain ⟨forms, hforms, hperm⟩ := List.perm_comp_forall₂ horder hk.stands
  refine ⟨forms, hperm, ?_⟩
  rw [ImportId.resolve_eq hforms fun t ht => hk.valid t (hperm.mem_iff.1 ht)]
  cases hsaid : forms.findSome? (·.parse id) with
  | none => rfl
  | some said =>
      obtain ⟨t, _, hparse⟩ := List.exists_of_findSome?_eq_some hsaid
      have hnames : ∀ name, name ∈ forms.flatMap (·.names) ↔ name ∈ k.id.names := by
        intro name
        rw [List.mem_flatMap]
        constructor
        · rintro ⟨t, ht, hname⟩
          exact hk.named t (hperm.mem_iff.1 ht) name hname
        · intro hname
          exact ⟨k.id, hperm.mem_iff.2 k.id_mem_importForms, hname⟩
      simp only [ImportId.fill_congr (Template.covers_of_parse hparse).ascending hnames]

end Kind.Importable

theorem Template.parse_name_iff {id : String} {said : Fields} :
    (⟨"{name}"⟩ : Template).parse id = some said ↔ IsSegment id ∧ said = [("name", id)] := by
  have hsegments : (⟨"{name}"⟩ : Template).segments = [.field "name".toList] := by decide +kernel
  have hnames : (⟨"{name}"⟩ : Template).names = ["name"] := by decide +kernel
  have htext : ∀ name, ([.field "name".toList] : List Segment).flatMap
      (Segment.value (Keyed.ofList [("name", name)])) = name.toList := by
    intro name
    rw [List.flatMap_singleton, Segment.value, Keyed.get?_ofList]
    rfl
  rw [parse_eq_some_iff_zip (by decide +kernel) (by decide +kernel), hsegments, hnames]
  constructor
  · rintro ⟨values, hlength, hsegment, rfl, hid⟩
    obtain ⟨name, rfl⟩ := List.length_eq_one_iff.1 hlength
    have hname : id = name := String.toList_injective (hid.trans (htext name))
    subst hname
    exact ⟨hsegment id List.mem_cons_self, rfl⟩
  · rintro ⟨h, rfl⟩
    exact ⟨[id], rfl, by simpa using h, rfl, (htext id).symm⟩

def Kind.identified {σ : Type} (k : Kind σ) (values : List String) : Fields :=
  Keyed.ofList (k.id.names.zip values)

theorem Kind.Importable.parse_identified {σ : Type} {k : Kind σ} (hk : k.Importable)
    {values : List String} {id : String} (hlength : values.length = k.id.names.length)
    (hsegments : ∀ value ∈ values, IsSegment value)
    (htext : id.toList = k.id.segments.flatMap (Template.Segment.value (k.identified values))) :
    k.id.parse id = some (k.identified values) := by
  have hvalid := hk.valid k.id k.id_mem_importForms
  have hsep := hk.separated k.id k.id_mem_importForms
  exact (Template.parse_eq_some_iff_zip hvalid hsep).2 ⟨values, hlength, hsegments, rfl, htext⟩

theorem Kind.Importable.exists_parse_iff {σ : Type} {k : Kind σ} (hk : k.Importable) {id : String}
    {said : Fields} :
    (∃ t ∈ k.importForms, t.parse id = some said) ↔
      (∃ values : List String, values.length = k.id.names.length ∧
        (∀ value ∈ values, IsSegment value) ∧ said = k.identified values ∧
        (id.toList = k.selfPath.segments.flatMap (Template.Segment.value said) ∨
          id.toList = k.id.segments.flatMap (Template.Segment.value said))) ∨
      (IsSegment id ∧ said = [("name", id)]) := by
  have hpath := hk.valid k.selfPath List.mem_cons_self
  have hid := hk.valid k.id k.id_mem_importForms
  rw [exists_form_iff,
    Template.parse_eq_some_iff_zip hpath (hk.separated k.selfPath List.mem_cons_self),
    Template.parse_eq_some_iff_zip hid (hk.separated k.id k.id_mem_importForms),
    hk.alike, Template.parse_name_iff, ← or_assoc]
  simp only [← and_or_left, ← exists_or]
  rfl

namespace Address

variable {id project region name : String} {said : Fields}

def idText (project region name : String) : String := project ++ "/" ++ region ++ "/" ++ name

def pathText (project region name : String) : String :=
  "projects/" ++ project ++ "/regions/" ++ region ++ "/addresses/" ++ name

inductive Imports : String → Fields → Prop
  | name {name : String} : IsSegment name → Imports name [("name", name)]
  | id {project region name : String} :
      IsSegment project → IsSegment region → IsSegment name →
      Imports (idText project region name) (identified project region name)
  | path {project region name : String} :
      IsSegment project → IsSegment region → IsSegment name →
      Imports (pathText project region name) (identified project region name)

theorem kind_identified : kind.identified [project, region, name] =
    identified project region name := by
  rw [Kind.identified, names_id]
  rfl

theorem toList_idText : (idText project region name).toList =
    kind.id.segments.flatMap (Template.Segment.value (identified project region name)) := by
  rw [segments_id]
  simp [idText, Template.Segment.value, get?_project_identified, get?_region_identified,
    get?_name_identified]

theorem parse_idText (hproject : IsSegment project) (hregion : IsSegment region)
    (hname : IsSegment name) :
    kind.id.parse (idText project region name) = some (identified project region name) := by
  rw [← kind_identified]
  apply kind_importable.parse_identified
  · rw [names_id]
    rfl
  · simp [hproject, hregion, hname]
  · rw [kind_identified, toList_idText]

theorem toList_pathText : (pathText project region name).toList =
    kind.selfPath.segments.flatMap (Template.Segment.value (identified project region name)) := by
  rw [segments_selfPath]
  simp [pathText, Template.Segment.value, get?_project_identified, get?_region_identified,
    get?_name_identified]

theorem imports_iff : Imports id said ↔ ∃ t ∈ kind.importForms, t.parse id = some said := by
  rw [kind_importable.exists_parse_iff, names_id]
  constructor
  · intro h
    cases h with
    | name hname => exact .inr ⟨hname, rfl⟩
    | @id project region name hproject hregion hname =>
        exact .inl ⟨[project, region, name], rfl, by simp [hproject, hregion, hname],
          kind_identified.symm, .inr toList_idText⟩
    | @path project region name hproject hregion hname =>
        exact .inl ⟨[project, region, name], rfl, by simp [hproject, hregion, hname],
          kind_identified.symm, .inl toList_pathText⟩
  · rintro (⟨values, hlength, hsegments, rfl, htext⟩ | ⟨hname, rfl⟩)
    · obtain ⟨project, region, name, rfl⟩ := List.length_eq_three.1 hlength
      rw [kind_identified] at htext ⊢
      obtain ⟨hproject, hregion, hname⟩ : IsSegment project ∧ IsSegment region ∧
        IsSegment name := by simpa using hsegments
      rcases htext with hpath | hid
      · rw [String.toList_injective (hpath.trans toList_pathText.symm)]
        exact .path hproject hregion hname
      · rw [String.toList_injective (hid.trans toList_idText.symm)]
        exact .id hproject hregion hname
    · exact .name hname

end Address

namespace Route

variable {id project name : String} {said : Fields}

def identified (project name : String) : Fields :=
  Keyed.ofList [("project", project), ("name", name)]

theorem get?_project_identified :
    Keyed.get? "project" (identified project name) = some project := by
  rw [identified, Keyed.get?_ofList]
  rfl

theorem get?_name_identified : Keyed.get? "name" (identified project name) = some name := by
  rw [identified, Keyed.get?_ofList]
  rfl

def idText (project name : String) : String := project ++ "/" ++ name

def pathText (project name : String) : String :=
  "projects/" ++ project ++ "/global/routes/" ++ name

inductive Imports : String → Fields → Prop
  | name {name : String} : IsSegment name → Imports name [("name", name)]
  | id {project name : String} :
      IsSegment project → IsSegment name →
      Imports (idText project name) (identified project name)
  | path {project name : String} :
      IsSegment project → IsSegment name →
      Imports (pathText project name) (identified project name)

theorem segments_id : kind.id.segments =
    [.field "project".toList, .literal "/".toList, .field "name".toList] := by
  decide +kernel

theorem kind_identified : kind.identified [project, name] = identified project name := by
  rw [Kind.identified, names_id]
  rfl

theorem toList_idText : (idText project name).toList =
    kind.id.segments.flatMap (Template.Segment.value (identified project name)) := by
  rw [segments_id]
  simp [idText, Template.Segment.value, get?_project_identified, get?_name_identified]

theorem parse_idText (hproject : IsSegment project) (hname : IsSegment name) :
    kind.id.parse (idText project name) = some (identified project name) := by
  rw [← kind_identified]
  apply kind_importable.parse_identified
  · rw [names_id]
    rfl
  · simp [hproject, hname]
  · rw [kind_identified, toList_idText]

theorem toList_pathText : (pathText project name).toList =
    kind.selfPath.segments.flatMap (Template.Segment.value (identified project name)) := by
  rw [segments_selfPath]
  simp [pathText, Template.Segment.value, get?_project_identified, get?_name_identified]

theorem imports_iff : Imports id said ↔ ∃ t ∈ kind.importForms, t.parse id = some said := by
  rw [kind_importable.exists_parse_iff, names_id]
  constructor
  · intro h
    cases h with
    | name hname => exact .inr ⟨hname, rfl⟩
    | @id project name hproject hname =>
        exact .inl ⟨[project, name], rfl, by simp [hproject, hname], kind_identified.symm,
          .inr toList_idText⟩
    | @path project name hproject hname =>
        exact .inl ⟨[project, name], rfl, by simp [hproject, hname], kind_identified.symm,
          .inl toList_pathText⟩
  · rintro (⟨values, hlength, hsegments, rfl, htext⟩ | ⟨hname, rfl⟩)
    · obtain ⟨project, name, rfl⟩ := List.length_eq_two.1 hlength
      rw [kind_identified] at htext ⊢
      obtain ⟨hproject, hname⟩ : IsSegment project ∧ IsSegment name := by simpa using hsegments
      rcases htext with hpath | hid
      · rw [String.toList_injective (hpath.trans toList_pathText.symm)]
        exact .path hproject hname
      · rw [String.toList_injective (hid.trans toList_idText.symm)]
        exact .id hproject hname
    · exact .name hname

end Route

def Family.Imports : Family → String → Fields → Prop
  | .address => Address.Imports
  | .route => Route.Imports

theorem Family.imports_iff {f : Family} {id : String} {said : Fields} :
    f.Imports id said ↔ ∃ t ∈ f.kind.importForms, t.parse id = some said := by
  cases f with
  | address => exact Address.imports_iff
  | route => exact Route.imports_iff

namespace ImportId

variable {f : Family} {id : String} {patterns : List String} {said : Fields}

theorem resolve_of_imports (horder : patterns.Perm f.kind.importPatterns) (h : f.Imports id said)
    (defaults : Fields) (s : Session) :
    (resolve id patterns defaults s).1 = .ok (fill defaults said f.kind.id.names) := by
  have hk := f.kind_importable
  obtain ⟨forms, hforms, hresolve⟩ := hk.exists_resolve horder id defaults s
  rw [hresolve, (hk.findSome?_eq_some_iff hforms).2 (Family.imports_iff.1 h)]

theorem resolve_of_not_imports (horder : patterns.Perm f.kind.importPatterns)
    (h : ¬ ∃ said, f.Imports id said) (defaults : Fields) (s : Session) :
    (resolve id patterns defaults s).1 = .error (.noPatternMatched id patterns) := by
  have hk := f.kind_importable
  obtain ⟨forms, hforms, hresolve⟩ := hk.exists_resolve horder id defaults s
  have hnone : forms.findSome? (·.parse id) = none := by
    rw [Option.eq_none_iff_forall_ne_some]
    intro said hsaid
    exact h ⟨said, Family.imports_iff.2 ((hk.findSome?_eq_some_iff hforms).1 hsaid)⟩
  rw [hresolve, hnone]

/-- An id of one of the three forms says its fields and the defaults say the others, in whatever
order the patterns stand; any other text is refused. No two patterns match one text. -/
theorem import_grammar (f : Family) (id : String) {patterns : List String}
    (horder : patterns.Perm f.kind.importPatterns) (defaults : Fields) (s : Session) :
    (∀ said, f.Imports id said →
      (resolve id patterns defaults s).1 = .ok (fill defaults said f.kind.id.names)) ∧
    ((¬ ∃ said, f.Imports id said) →
      (resolve id patterns defaults s).1 = .error (.noPatternMatched id patterns)) ∧
    (∀ said said', f.Imports id said → f.Imports id said' → said = said') ∧
    (∀ raw ∈ patterns, ∀ raw' ∈ patterns, Matches raw id → Matches raw' id → raw = raw') ∧
    (resolve id patterns defaults s).1.toOption =
      (resolve id f.kind.importPatterns defaults s).1.toOption := by
  have hk := f.kind_importable
  refine ⟨fun said h => resolve_of_imports horder h defaults s,
    fun h => resolve_of_not_imports horder h defaults s, ?_, ?_, ?_⟩
  · intro said said' h h'
    obtain ⟨t, ht, hsaid⟩ := Family.imports_iff.1 h
    obtain ⟨u, hu, hsaid'⟩ := Family.imports_iff.1 h'
    rw [hk.unique ht hu hsaid hsaid', hsaid', Option.some.injEq] at hsaid
    exact hsaid.symm
  · intro raw hraw raw' hraw' h h'
    exact hk.eq_of_matches (horder.mem_iff.1 hraw) (horder.mem_iff.1 hraw') h h'
  · by_cases h : ∃ said, f.Imports id said
    · obtain ⟨said, hsaid⟩ := h
      rw [resolve_of_imports horder hsaid, resolve_of_imports (.refl _) hsaid]
    · rw [resolve_of_not_imports horder h, resolve_of_not_imports (.refl _) h]
      rfl

namespace Reversed

def session : Session := .start [] fun n => ⟨n⟩

theorem resolve_path_reversed :
    Address.kind.importPatterns.reverse.Perm Address.kind.importPatterns ∧
    (resolve (Address.pathText "p1" "r1" "a1") Address.kind.importPatterns.reverse
        [("region", "r2")] session).1 =
      .ok [("name", "a1"), ("project", "p1"), ("region", "r1")] := by
  have horder := List.reverse_perm Address.kind.importPatterns
  have hresolve := (import_grammar .address (Address.pathText "p1" "r1" "a1") horder
    [("region", "r2")] session).1 _ (.path (by decide) (by decide) (by decide))
  have hfill : fill [("region", "r2")] (Address.identified "p1" "r1" "a1")
      Address.kind.id.names = [("name", "a1"), ("project", "p1"), ("region", "r1")] := by
    decide +kernel
  exact ⟨horder, hresolve.trans (congrArg Except.ok hfill)⟩

end Reversed

end ImportId

end Reconcile
