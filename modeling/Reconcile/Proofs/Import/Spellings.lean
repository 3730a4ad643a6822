import Reconcile.Lifecycle
import Reconcile.Proofs.Import.Grammar

namespace Reconcile

theorem Context.get?_project_defaultFields (c : Context) :
    Keyed.get? "project" c.defaultFields = c.project := by
  rw [defaultFields, Keyed.get?_ofList]
  cases c.project <;> cases c.region <;> cases c.zone <;> rfl

theorem Context.get?_region_defaultFields (c : Context) :
    Keyed.get? "region" c.defaultFields = c.region := by
  rw [defaultFields, Keyed.get?_ofList]
  cases c.project <;> cases c.region <;> cases c.zone <;> rfl

theorem Family.imports_name (f : Family) {name : String} (h : IsSegment name) :
    f.Imports name [("name", name)] := by
  cases f with
  | address => exact .name h
  | route => exact .name h

theorem Family.imports_of_parse {f : Family} {id : String} {identity : Fields}
    (h : f.kind.id.parse id = some identity) : f.Imports id identity :=
  imports_iff.2 ⟨f.kind.id, f.kind.id_mem_importForms, h⟩

namespace ImportId

variable {f : Family} {id name : String} {defaults identity : Fields}

theorem fill_identity (h : f.kind.id.parse id = some identity) :
    fill defaults identity f.kind.id.names = identity := by
  apply fill_of_said (Template.covers_of_parse h).ascending
  intro key hkey
  obtain ⟨value, hget, _⟩ := Template.isSegment_get?_of_parse f.kind_placed.distinct h key hkey
  rw [hget]
  rfl

theorem fill_name (h : f.kind.id.parse id = some identity)
    (hname : Keyed.get? "name" identity = some name)
    (hdefaults : ∀ key ∈ f.kind.id.names, key ≠ "name" →
      Keyed.get? key defaults = Keyed.get? key identity) :
    fill defaults [("name", name)] f.kind.id.names = identity := by
  have hcovers := Template.covers_of_parse h
  have hbare : f.kind.id.Covers [("name", name)] := by
    refine ⟨List.pairwise_singleton _ _, ?_⟩
    intro e he
    rw [List.mem_singleton.1 he]
    exact hcovers.named _ (Keyed.mem_of_get? hname)
  apply (fill_covers (fun _ hkey => hkey) hbare).ext hcovers
  intro key hkey
  rw [get?_fill, if_pos hkey]
  by_cases hsame : key = "name"
  · subst hsame
    rw [hname]
    rfl
  · rw [hdefaults key hkey hsame, Keyed.get?, if_neg (Ne.symm hsame)]
    rfl

end ImportId

namespace Lifecycle

variable {σ : Type} {k : Kind σ} {f : Family} {c : Context} {importId id : String}
  {said identity : Fields} {s : Session}

theorem adopt_of_resolve
    (hresolve : (ImportId.resolve importId k.importPatterns c.defaultFields s).1 = .ok identity)
    (hid : k.id.render identity = .ok id) :
    (adopt k c importId s).1 = .ok ⟨some id, k.seed identity⟩ := by
  unfold adopt
  split
  · next e s' h =>
      rw [h] at hresolve
      cases hresolve
  · next identity' s' h =>
      rw [h] at hresolve
      cases hresolve
      simp only [hid]

theorem adopt_of_imports (h : f.Imports importId said)
    (hfill : ImportId.fill c.defaultFields said f.kind.id.names = identity)
    (hid : f.kind.id.parse id = some identity) (s : Session) :
    (adopt f.kind c importId s).1 = .ok ⟨some id, f.kind.seed identity⟩ := by
  refine adopt_of_resolve ?_ (f.kind_placed.render hid)
  rw [ImportId.resolve_of_imports (.refl _) h, hfill]

theorem adopt_of_parse (hid : f.kind.id.parse id = some identity) (c : Context) (s : Session) :
    (adopt f.kind c id s).1 = .ok ⟨some id, f.kind.seed identity⟩ :=
  adopt_of_imports (Family.imports_of_parse hid) (ImportId.fill_identity hid) hid s

theorem adopt_of_spellings (f : Family) (hid : f.kind.id.parse id = some identity)
    (hpath : f.Imports importId identity) (hname : Keyed.get? "name" identity = some name)
    (c : Context) (s : Session) :
    (adopt f.kind c id s).1 = .ok ⟨some id, f.kind.seed identity⟩ ∧
    (adopt f.kind c importId s).1 = .ok ⟨some id, f.kind.seed identity⟩ ∧
    ((∀ key ∈ f.kind.id.names, key ≠ "name" →
        Keyed.get? key c.defaultFields = Keyed.get? key identity) →
      (adopt f.kind c name s).1 = .ok ⟨some id, f.kind.seed identity⟩) := by
  refine ⟨adopt_of_parse hid c s, ?_, ?_⟩
  · exact adopt_of_imports hpath (ImportId.fill_identity hid) hid s
  · intro hdefaults
    have hsegment : IsSegment name :=
      Template.isSegment_of_parse hid _ (Keyed.mem_of_get? hname)
    exact adopt_of_imports (f.imports_name hsegment) (ImportId.fill_name hid hname hdefaults) hid s

end Lifecycle

namespace Address

variable {c : Context} {project region name : String}

def known (project region name : String) : Record Address :=
  ⟨some (idText project region name),
    { blank with name := name, project := some project, region := some region }⟩

theorem known_eq : known project region name =
    ⟨some (idText project region name), kind.seed (identified project region name)⟩ := by
  have hseed : kind.seed = seed := rfl
  rw [hseed, seed, get?_project_identified, get?_region_identified, get?_name_identified]
  rfl

theorem adopt_of_spelling (c : Context) (hproject : IsSegment project) (hregion : IsSegment region)
    (hname : IsSegment name) (s : Session) :
    (Lifecycle.adopt kind c (idText project region name) s).1 = .ok (known project region name) ∧
    (Lifecycle.adopt kind c (pathText project region name) s).1 =
      .ok (known project region name) ∧
    (c.project = some project → c.region = some region →
      (Lifecycle.adopt kind c name s).1 = .ok (known project region name)) := by
  obtain ⟨hid, hpath, hbare⟩ := Lifecycle.adopt_of_spellings .address
    (parse_idText hproject hregion hname) (.path hproject hregion hname) get?_name_identified c s
  rw [known_eq]
  refine ⟨hid, hpath, ?_⟩
  intro hproject hregion
  apply hbare
  intro key hkey hother
  have hkeys : key ∈ ["project", "region", "name"] := names_id ▸ hkey
  simp only [List.mem_cons, hother, List.not_mem_nil, or_false] at hkeys
  rcases hkeys with rfl | rfl
  · rw [c.get?_project_defaultFields, hproject, get?_project_identified]
  · rw [c.get?_region_defaultFields, hregion, get?_region_identified]

end Address

namespace Route

variable {c : Context} {project name : String}

def known (project name : String) : Record Route :=
  ⟨some (idText project name), { blank with name := name, project := some project }⟩

theorem known_eq : known project name =
    ⟨some (idText project name), kind.seed (identified project name)⟩ := by
  have hseed : kind.seed = seed := rfl
  rw [hseed, seed, get?_project_identified, get?_name_identified]
  rfl

theorem adopt_of_spelling (c : Context) (hproject : IsSegment project) (hname : IsSegment name)
    (s : Session) :
    (Lifecycle.adopt kind c (idText project name) s).1 = .ok (known project name) ∧
    (Lifecycle.adopt kind c (pathText project name) s).1 = .ok (known project name) ∧
    (c.project = some project →
      (Lifecycle.adopt kind c name s).1 = .ok (known project name)) := by
  obtain ⟨hid, hpath, hbare⟩ := Lifecycle.adopt_of_spellings .route
    (parse_idText hproject hname) (.path hproject hname) get?_name_identified c s
  rw [known_eq]
  refine ⟨hid, hpath, ?_⟩
  intro hproject
  apply hbare
  intro key hkey hother
  have hkeys : key ∈ ["project", "name"] := names_id ▸ hkey
  simp only [List.mem_cons, hother, List.not_mem_nil, or_false] at hkeys
  subst hkeys
  rw [c.get?_project_defaultFields, hproject, get?_project_identified]

end Route

namespace Lifecycle

/-- The id of an object and its path are imported as one record whatever the defaults are, and so is
its name where they say the rest. An id that can be read is imported as it is. -/
theorem import_spellings (c : Context) (s : Session) :
    (∀ project region name, IsSegment project → IsSegment region → IsSegment name →
      (adopt Address.kind c (Address.idText project region name) s).1 =
          .ok (Address.known project region name) ∧
        (adopt Address.kind c (Address.pathText project region name) s).1 =
          .ok (Address.known project region name) ∧
        (c.project = some project → c.region = some region →
          (adopt Address.kind c name s).1 = .ok (Address.known project region name))) ∧
    (∀ project name, IsSegment project → IsSegment name →
      (adopt Route.kind c (Route.idText project name) s).1 = .ok (Route.known project name) ∧
        (adopt Route.kind c (Route.pathText project name) s).1 =
          .ok (Route.known project name) ∧
        (c.project = some project →
          (adopt Route.kind c name s).1 = .ok (Route.known project name))) ∧
    ∀ (f : Family) (id : String) (identity : Fields), f.kind.id.parse id = some identity →
      (ImportId.resolve id f.kind.importPatterns c.defaultFields s).1 = .ok identity ∧
        (adopt f.kind c id s).1 = .ok ⟨some id, f.kind.seed identity⟩ := by
  refine ⟨?_, ?_, ?_⟩
  · intro project region name hproject hregion hname
    exact Address.adopt_of_spelling c hproject hregion hname s
  · intro project name hproject hname
    exact Route.adopt_of_spelling c hproject hname s
  · intro f id identity hid
    refine ⟨?_, adopt_of_parse hid c s⟩
    rw [ImportId.resolve_of_imports (.refl _) (Family.imports_of_parse hid),
      ImportId.fill_identity hid]

namespace Keywords

def context : Context := .ofDefaults ⟨some "projects", none, some "regions-1-b"⟩

def session : Session := .start [] fun n => ⟨n⟩

theorem adopt_keywords :
    (adopt Address.kind context "projects/regions-1/addresses" session).1 =
      .ok (Address.known "projects" "regions-1" "addresses") ∧
    (adopt Address.kind context
        "projects/projects/regions/regions-1/addresses/addresses" session).1 =
      .ok (Address.known "projects" "regions-1" "addresses") ∧
    (adopt Address.kind context "addresses" session).1 =
      .ok (Address.known "projects" "regions-1" "addresses") ∧
    (adopt Route.kind context "projects/global" session).1 =
      .ok (Route.known "projects" "global") ∧
    (adopt Route.kind context "projects/global" session).1 =
      .ok ⟨some "projects/global", Route.seed [("name", "global"), ("project", "projects")]⟩ := by
  obtain ⟨haddress, hroute, hread⟩ := import_spellings context session
  obtain ⟨hid, hpath, hname⟩ := haddress "projects" "regions-1" "addresses" (by decide) (by decide)
    (by decide)
  obtain ⟨hrouteId, _⟩ := hroute "projects" "global" (by decide) (by decide)
  exact ⟨hid, hpath, hname rfl (by decide +kernel), hrouteId,
    (hread .route "projects/global" [("name", "global"), ("project", "projects")]
      (by decide +kernel)).2⟩

end Keywords

end Lifecycle

end Reconcile
