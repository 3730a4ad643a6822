import Reconcile.Proofs.Network.Collections
import Reconcile.Proofs.Network.Stability

namespace Reconcile.Address

variable {a : Address} {c : Context} {p : Payload} {value project region name : String}

inductive Names (value : String) : Option String → String → Prop
  | bare {short : String} : Reference.stripUrl "region" value = .ok short.toList →
      IsSegment short → Names value none short
  | within {project short : String} :
      Reference.stripUrl "region" value =
        .ok ("projects/" ++ project ++ "/regions/" ++ short).toList →
      IsSegment project → IsSegment short → Names value (some project) short

theorem relativeLink_region {r : Reference} (hcollection : r.collection = "regions")
    (hscope : r.scope = .project) :
    r.relativeLink = "projects/" ++ r.project ++ "/regions/" ++ r.name := by
  obtain ⟨p, l, collection, n, scope⟩ := r
  subst hcollection hscope
  apply String.toList_injective
  simp [Reference.relativeLink]

theorem names_of_resolve {ambient : Option String} {r : Reference}
    (h : Reference.resolve "region" value "regions" .project ambient none = .ok r) :
    ∃ said, Names value said r.name ∧ (said <|> ambient) = some r.project ∧
      r.relativeLink = "projects/" ++ r.project ++ "/regions/" ++ r.name := by
  obtain ⟨relative, parts, hrelative, hfilled, hshape, hproject, _, hcollection, hname, hscope⟩ :=
    Reference.resolve_eq_ok h
  have hsegment : ∀ text ∈ (Text.splitOn '/' relative).map String.ofList, IsSegment text :=
    fun text => isSegment_of_mem_splitOn hfilled
  have hwhole : relative = Text.join ['/']
      (((Text.splitOn '/' relative).map String.ofList).map String.toList) := by
    simp [Function.comp_def, Text.join_splitOn]
  refine ⟨parts.project, ?_, hproject, relativeLink_region hcollection hscope⟩
  generalize (Text.splitOn '/' relative).map String.ofList = segments at hshape hsegment hwhole
  rw [hwhole] at hrelative
  rw [hname]
  cases hshape with
  | bare => exact .bare hrelative (hsegment _ (by simp))
  | @project other short =>
      have hpath : ("projects/" ++ other ++ "/regions/" ++ short).toList = Text.join ['/']
          (["projects", other, "regions", short].map String.toList) := by
        simp [Text.join]
      rw [← hpath] at hrelative
      exact .within hrelative (hsegment _ (by simp)) (hsegment _ (by simp))
  | placed hplaced => rcases hplaced with h | h <;> cases h
  | placedIn hplaced => rcases hplaced with h | h <;> cases h

theorem path_collection {path : String}
    (h : kind.collectionPath.render (identified project region name) = .ok path) :
    path = "projects/" ++ project ++ "/regions/" ++ region ++ "/addresses" := by
  apply String.toList_injective
  rw [Template.render_eq h, segments_collectionPath]
  simp [Template.Segment.value, get?_project_identified, get?_region_identified]

theorem id_eq {id : String} (h : kind.id.render (identified project region name) = .ok id) :
    id = project ++ "/" ++ region ++ "/" ++ name := by
  apply String.toList_injective
  rw [Template.render_eq h, segments_id]
  simp [Template.Segment.value, get?_project_identified, get?_region_identified,
    get?_name_identified]

theorem link_project_iff {other : String} :
    "projects/" ++ other ++ "/regions/" ++ region =
      "projects/" ++ project ++ "/regions/" ++ region ↔ other = project := by
  constructor
  · intro h
    have htext := congrArg String.toList h
    simp only [String.toList_append, List.append_assoc, List.append_cancel_left_eq,
      List.append_cancel_right_eq] at htext
    exact String.toList_injective htext
  · rintro rfl
    rfl

/-- The link to the declared region is that of the project it names, or else of the identity. It is
the link of the identity exactly if no other project is named; a region whose text shows its path is
always the one of the collection and of the id. -/
theorem region_link_iff (hexpand : a.expand c = .ok p) (hdeclared : a.region = some value) :
    ∃ identity project region said short, a.identity c = .ok identity ∧
      Keyed.get? "project" identity = some project ∧ Keyed.get? "region" identity = some region ∧
      (∀ path, kind.collectionPath.render identity = .ok path →
        path = "projects/" ++ project ++ "/regions/" ++ region ++ "/addresses") ∧
      (∀ id, kind.id.render identity = .ok id → id = project ++ "/" ++ region ++ "/" ++ a.name) ∧
      Names value said short ∧
      p.get? "region" = some (.str ("projects/" ++ said.getD project ++ "/regions/" ++ short)) ∧
      (Reference.ShowsPath value → short = region ∧
        (p.get? "region" = some (.str ("projects/" ++ project ++ "/regions/" ++ region)) ↔
          ∀ other ∈ said, other = project)) := by
  obtain ⟨identity, _, linked, hidentity, hrefers, hcarries⟩ := expand_eq_ok hexpand
  obtain ⟨project, region, hregion, rfl⟩ := identity_eq_identified hidentity
  have hlinked := hrefers.region
  rw [hdeclared] at hlinked
  cases hlinked with
  | @some _ r hr =>
      obtain ⟨said, hnames, hproject, hlink⟩ := names_of_resolve hr
      rw [get?_project_identified] at hproject
      have hsaid : said.getD project = r.project := by
        cases said <;> simpa using hproject
      have hsent : p.get? "region" = some (.str r.relativeLink) := hcarries "region"
      rw [hlink, ← hsaid] at hsent
      refine ⟨_, project, region, said, r.name, hidentity, get?_project_identified,
        get?_region_identified, fun _ => path_collection, fun _ => id_eq, hnames, hsent, ?_⟩
      intro hshown
      have hsame : r.name = region := by
        have hname := (settled_iff_of_declared (c := c) hdeclared hr).1
          (settled_of_showsPath hdeclared hshown)
        rw [regionOf_eq_ok_iff, hdeclared] at hregion
        exact hname.symm.trans (Option.some.inj hregion)
      refine ⟨hsame, ?_⟩
      rw [hsent, hsame, Option.some.injEq, Json.str.injEq, link_project_iff]
      cases said <;> simp

namespace OtherProject

def context : Context := .ofDefaults ⟨some "p1", none, none⟩

def declared (region : String) : Address := { blank with name := "web", region := some region }

def identity : Fields := [("name", "web"), ("project", "p1"), ("region", "us-east1")]

def shown : String := "https://www.googleapis.com/compute/v1/projects/p2/regions/us-east1/"

theorem shown_region_kept : Reference.ShowsPath shown ∧
    (declared shown).identity context = .ok identity ∧
    ∃ p said, (declared shown).expand context = .ok p ∧ Names shown said "us-east1" ∧
      p.get? "region" =
        some (.str ("projects/" ++ said.getD "p1" ++ "/regions/" ++ "us-east1")) := by
  have hshown : Reference.ShowsPath shown := by decide +kernel
  have hsome : ((declared shown).expand context).toOption.isSome = true := by decide +kernel
  obtain ⟨p, hp⟩ := Option.isSome_iff_exists.1 hsome
  have hexpand := toOption_eq_some_iff.1 hp
  have hidentity : (declared shown).identity context = .ok identity := by rfl
  obtain ⟨_, project, region, said, short, hidentity', hproject, hregion, _, _, hnames, hsent,
    hlink⟩ := region_link_iff hexpand rfl
  rw [hidentity, Except.ok.injEq] at hidentity'
  subst hidentity'
  cases hproject
  cases hregion
  obtain ⟨rfl, _⟩ := hlink hshown
  exact ⟨hshown, hidentity, p, said, hexpand, hnames, hsent⟩

/-- A region of another project is sent as it is named, not refused. -/
theorem other_project_sent :
    (declared "projects/p2/regions/us-east1").identity context = .ok identity ∧
    (declared "projects/p2/regions/us-east1").expand context =
      .ok ⟨[("name", .str "web"), ("region", .str "projects/p2/regions/us-east1")]⟩ ∧
    kind.collectionPath.render identity = .ok "projects/p1/regions/us-east1/addresses" ∧
    "projects/p2/regions/us-east1" ≠ "projects/p1/regions/us-east1" :=
  ⟨by rfl, by rfl, by rfl, by decide⟩

end OtherProject

end Reconcile.Address
