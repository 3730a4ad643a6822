import Reconcile.Proofs.Network.AddressRoundTrip
import Reconcile.Proofs.Network.RouteRoundTrip
import Reconcile.Proofs.Template.Parts

namespace Reconcile

theorem SelfLink.name_eq_self_iff {text : String} : name text = text ↔ '/' ∉ text.toList := by
  constructor
  · intro h
    rw [← h, name, String.toList_ofList]
    exact not_mem_nameChars _
  · intro h
    rw [name, nameChars_of_not_mem h, String.ofList_toList]

namespace Reference

/-- A path, or a URL whose text ends with its path as it is read: nothing of it is left out, and
nothing follows it. -/
def ShowsPath (value : String) : Prop :=
  isUrl value.toList = true → ∀ u, Url.parse value = .ok u → u.pathText <:+ value.toList

instance (value : String) : Decidable (ShowsPath value) :=
  decidable_of_iff ((!isUrl value.toList ||
      (Url.parse value).toOption.all (·.pathText.isSuffixOf value.toList)) = true) (by
    unfold ShowsPath
    cases isUrl value.toList <;> cases Url.parse value <;> simp [Except.toOption])

theorem nameChars_of_showsPath {field value : String} {relative : List Char}
    (h : ShowsPath value) (hrelative : stripUrl field value = .ok relative) :
    SelfLink.nameChars value.toList = SelfLink.nameChars relative := by
  unfold stripUrl at hrelative
  split at hrelative
  · next hurl =>
    split at hrelative
    · cases hrelative
    next u hparse =>
    split at hrelative
    · next before rest hcut =>
      rw [Except.ok.injEq] at hrelative
      obtain ⟨lead, hlead⟩ := h hurl u hparse
      have hpath := Text.eq_of_cut? hcut
      have htext : value.toList = (lead ++ before) ++ '/' :: ("projects/".toList ++ rest) := by
        rw [← hlead, hpath]
        simp
      rw [htext, ← hrelative, SelfLink.nameChars_dropEndWhile,
        SelfLink.nameChars_suffix _ ⟨'p', by simp, by decide⟩]
    · cases hrelative
  · rw [Except.ok.injEq] at hrelative
    rw [hrelative]

end Reference

namespace Address

variable {a : Address} {c : Context} {p : Payload} {identity : Fields}
  {project region region' name id : String}

def identified (project region name : String) : Fields :=
  Keyed.ofList [("project", project), ("region", region), ("name", name)]

theorem identity_eq_identified (h : a.identity c = .ok identity) :
    ∃ project region, regionOf a c = .ok region ∧ identity = identified project region a.name := by
  obtain ⟨project, region, _, hregion, hfields⟩ := identity_eq_ok h
  exact ⟨project, region, hregion, hfields⟩

theorem get?_project_identified :
    Keyed.get? "project" (identified project region name) = some project := by
  rw [identified, Keyed.get?_ofList]
  rfl

theorem get?_region_identified :
    Keyed.get? "region" (identified project region name) = some region := by
  rw [identified, Keyed.get?_ofList]
  rfl

theorem get?_name_identified :
    Keyed.get? "name" (identified project region name) = some name := by
  rw [identified, Keyed.get?_ofList]
  rfl

theorem identified_region_iff :
    identified project region' name = identified project region name ↔ region' = region := by
  constructor
  · intro h
    have hregion := congrArg (Keyed.get? "region") h
    rwa [get?_region_identified, get?_region_identified, Option.some.injEq] at hregion
  · rintro rfl
    rfl

theorem segments_id : kind.id.segments =
    [.field "project".toList, .literal "/".toList, .field "region".toList, .literal "/".toList,
      .field "name".toList] := by
  decide +kernel

theorem render_id_region_iff (h : kind.id.render (identified project region name) = .ok id) :
    kind.id.render (identified project region' name) = .ok id ↔ region' = region := by
  constructor
  · intro h'
    have htext := Template.render_eq h
    rw [Template.render_eq h', segments_id] at htext
    simp only [List.flatMap_cons, List.flatMap_nil, Template.Segment.value, String.ofList_toList,
      get?_project_identified, get?_region_identified, get?_name_identified, Option.getD_some,
      List.append_cancel_left_eq, List.append_cancel_right_eq] at htext
    exact String.toList_injective htext
  · rintro rfl
    exact h

/-- The declared region ends, as a text, with the segment that its path ends with; a default region
is one segment. -/
def Settled (a : Address) (c : Context) : Prop :=
  match a.region with
  | some value => ∀ relative, Reference.stripUrl "region" value = .ok relative →
      SelfLink.nameChars value.toList = SelfLink.nameChars relative
  | none => ∀ region ∈ c.region, '/' ∉ region.toList

theorem regionOf_eq_ok_iff :
    regionOf a c = .ok region ↔ (a.region.map SelfLink.name <|> c.region) = some region := by
  unfold regionOf
  split
  · next h => rw [h, Except.ok.injEq, Option.some.injEq]
  · next h => simp [h]

theorem settled_iff_of_default (hdeclared : a.region = none) (hdefault : c.region = some region) :
    a.Settled c ↔ SelfLink.name region = region := by
  rw [SelfLink.name_eq_self_iff]
  simp [Settled, hdeclared, hdefault]

theorem settled_iff_of_declared {value collection : String} {scope : Scope}
    {location : Option String} {r : Reference} {ambient : Option String}
    (hdeclared : a.region = some value)
    (hr : Reference.resolve "region" value collection scope ambient location = .ok r) :
    a.Settled c ↔ SelfLink.name value = r.name := by
  obtain ⟨relative, _, hrelative, _⟩ := Reference.resolve_eq_ok hr
  have hname := Reference.nameChars_of_resolve hr hrelative
  have hchars : SelfLink.name value = r.name ↔ SelfLink.nameChars value.toList = r.name.toList := by
    rw [← String.toList_inj, SelfLink.name, String.toList_ofList]
  rw [hchars, ← hname]
  simp [Settled, hdeclared, hrelative]

theorem hydrated_region (hidentity : a.identity c = .ok (identified project region name))
    (hexpand : a.expand c = .ok p) :
    ∃ back, (flatten p.json (identified project region name)).region = some back ∧
      (SelfLink.name back = region ↔ a.Settled c) := by
  obtain ⟨identity, _, linked, hidentity', hrefers, hcarries⟩ := expand_eq_ok hexpand
  rw [hidentity, Except.ok.injEq] at hidentity'
  subst hidentity'
  have hdeclared : (a.region.map SelfLink.name <|> c.region) = some region := by
    obtain ⟨_, region', hregion, hfields⟩ := identity_eq_identified hidentity
    have hsame := congrArg (Keyed.get? "region") hfields
    rw [get?_region_identified, get?_region_identified] at hsame
    rw [regionOf_eq_ok_iff.1 hregion, hsame]
  have hkept : (flatten p.json (identified project region name)).region =
      (linked.map (·.name) <|> some region) := by
    have hback : (Wire.string? p.json "region").map SelfLink.name = linked.map (·.name) :=
      Wire.name_of_link hrefers.region (hcarries "region")
    have hgiven : Keyed.get? "region" (identified project region name) = some region :=
      get?_region_identified
    rw [← hback, ← hgiven]
    rfl
  have hlinked := hrefers.region
  generalize hvalue : a.region = value at hlinked hdeclared
  cases hlinked with
  | none =>
      refine ⟨region, hkept, ?_⟩
      rw [settled_iff_of_default hvalue hdeclared]
  | @some value linked hr =>
      refine ⟨linked.name, hkept, ?_⟩
      have hwhole := (Reference.isSegment_of_resolve hr).2
      have hregion : SelfLink.name value = region := Option.some.inj hdeclared
      rw [settled_iff_of_declared hvalue hr, SelfLink.name_eq_self_iff.2 hwhole, hregion]
      exact eq_comm

theorem settled_of_showsPath {value : String} (hdeclared : a.region = some value)
    (hshown : Reference.ShowsPath value) : a.Settled c := by
  unfold Settled
  rw [hdeclared]
  exact fun relative => Reference.nameChars_of_showsPath hshown

theorem identity_of_parts {t : Address} (hname : isName t.name.toList = true)
    (hproject : t.project = some project) (hregion : t.region = some region) (c : Context) :
    t.identity c = .ok (identified project (SelfLink.name region) t.name) :=
  identity_eq_ok_iff.2 ⟨hname, project, SelfLink.name region, by simp [projectOf, hproject],
    by simp [regionOf, hregion], rfl⟩

theorem hydrated_parts (hidentity : a.identity c = .ok (identified project region name))
    (hexpand : a.expand c = .ok p) :
    (flatten p.json (identified project region name)).name = a.name ∧
    (flatten p.json (identified project region name)).project = some project := by
  obtain ⟨_, _, _, _, _, hcarries⟩ := expand_eq_ok hexpand
  have hname : Wire.string? p.json "name" = filled (some a.name) :=
    Wire.string?_of_text (hcarries "name")
  constructor
  · simp only [flatten, hname, get?_name hidentity, filled_or_self, Option.getD_some]
  · exact get?_project_identified

theorem hydrated_identity (hidentity : a.identity c = .ok identity)
    (hexpand : a.expand c = .ok p) :
    ∃ identity', (∀ c', (flatten p.json identity).identity c' = .ok identity') ∧
      (identity' = identity ↔ a.Settled c) ∧
      ∀ id, kind.id.render identity = .ok id →
        (kind.id.render identity' = .ok id ↔ a.Settled c) := by
  obtain ⟨hvalid, project, region, _, _, rfl⟩ := identity_eq_ok_iff.1 hidentity
  obtain ⟨hname, hproject⟩ := hydrated_parts hidentity hexpand
  obtain ⟨back, hregion, hsettled⟩ := hydrated_region hidentity hexpand
  refine ⟨identified project (SelfLink.name back) a.name, ?_, ?_, ?_⟩
  · intro c'
    have hback := identity_of_parts (by rwa [hname]) hproject hregion c'
    rwa [hname] at hback
  · exact identified_region_iff.trans hsettled
  · intro id hid
    exact (render_id_region_iff hid).trans hsettled

end Address

namespace Route

variable {r : Route} {c : Context} {p : Payload} {identity : Fields}

theorem hydrated_identity (hidentity : r.identity c = .ok identity) (hexpand : r.expand c = .ok p)
    (c' : Context) : (flatten p.json identity).identity c' = .ok identity := by
  obtain ⟨_, _, _, _, _, hcarries⟩ := expand_eq_ok hexpand
  obtain ⟨hfilled, project, _, rfl⟩ := identity_eq_ok_iff.1 hidentity
  have hsent : Wire.string? p.json "name" = filled (some r.name) :=
    Wire.string?_of_text (hcarries "name")
  have hname : (flatten p.json (Keyed.ofList [("project", project), ("name", r.name)])).name =
      r.name := by
    simp only [flatten, hsent, get?_name hidentity, filled_or_self, Option.getD_some]
  have hproject : (flatten p.json (Keyed.ofList [("project", project), ("name", r.name)])).project =
      some project := by
    change Keyed.get? "project" (Keyed.ofList _) = _
    rw [Keyed.get?_ofList]
    rfl
  refine identity_eq_ok_iff.2 ⟨by rwa [hname], project, ?_, by rw [hname]⟩
  rw [projectOf, hproject]
  rfl

end Route

def Family.Settled : (f : Family) → f.State → Context → Prop
  | .address, a, c => a.Settled c
  | .route, _, _ => True

/-- What comes back of a declared state has an identity whatever the defaults are by then. It is the
identity, and has the id, that the object was created under exactly if the state is settled. -/
theorem hydrated_identity_iff (f : Family) (state : f.State) (c : Context) {identity : Fields}
    {p : Payload} (hidentity : f.kind.identity state c = .ok identity)
    (hexpand : f.kind.expand state c = .ok p) :
    ∃ identity',
      (∀ c', f.kind.identity (f.kind.flatten p.json identity) c' = .ok identity') ∧
      (identity' = identity ↔ f.Settled state c) ∧
      ∀ id, f.kind.id.render identity = .ok id →
        (f.kind.id.render identity' = .ok id ↔ f.Settled state c) := by
  cases f with
  | address => exact Address.hydrated_identity hidentity hexpand
  | route =>
      refine ⟨identity, Route.hydrated_identity hidentity hexpand, ?_, ?_⟩
      · exact iff_of_true rfl trivial
      · intro id hid
        exact iff_of_true hid trivial

namespace Address.Declared

def context : Context := .ofDefaults ⟨some "p1", some "us-central1", none⟩

def declared (region : String) : Address := { blank with name := "web", region := some region }

def identity (region : String) : Fields := [("name", "web"), ("project", "p1"), ("region", region)]

def payload : Payload :=
  ⟨[("name", .str "web"), ("region", .str "projects/p1/regions/us-east1")]⟩

theorem path_stays : (declared "projects/p1/regions/us-east1").Settled context ∧
    (declared "projects/p1/regions/us-east1").expand context = .ok payload ∧
    ∀ c', (flatten payload.json (identity "us-east1")).identity c' = .ok (identity "us-east1") := by
  have hidentity : Family.address.kind.identity (declared "projects/p1/regions/us-east1") context =
      .ok (identity "us-east1") := by rfl
  have hexpand : Family.address.kind.expand (declared "projects/p1/regions/us-east1") context =
      .ok payload := by rfl
  have hsettled := settled_of_showsPath (c := context)
    (a := declared "projects/p1/regions/us-east1") rfl (by decide +kernel)
  obtain ⟨identity', hback, hsame, _⟩ := hydrated_identity_iff .address _ context hidentity hexpand
  rw [hsame.2 hsettled] at hback
  exact ⟨hsettled, hexpand, hback⟩

def queried : String :=
  "https://www.googleapis.com/compute/v1/projects/p1/regions/us-east1?alt=json"

/-- The object is created under one id and comes back under another one. -/
theorem query_comes_off :
    (declared queried).identity context = .ok (identity "us-east1?alt=json") ∧
    kind.id.render (identity "us-east1?alt=json") = .ok "p1/us-east1?alt=json/web" ∧
    ∃ p, (declared queried).expand context = .ok p ∧
      (flatten p.json (identity "us-east1?alt=json")).identity context =
        .ok (identity "us-east1") ∧
      kind.id.render (identity "us-east1") = .ok "p1/us-east1/web" ∧
      identity "us-east1" ≠ identity "us-east1?alt=json" := by
  have hback : ((declared queried).expand context).toOption.bind (fun p =>
      ((flatten p.json (identity "us-east1?alt=json")).identity context).toOption) =
      some (identity "us-east1") := by
    decide +kernel
  obtain ⟨p, hexpand, hidentity⟩ := Option.bind_eq_some_iff.1 hback
  exact ⟨by rfl, by rfl, p, toOption_eq_some_iff.1 hexpand, toOption_eq_some_iff.1 hidentity,
    by rfl, by decide⟩

end Address.Declared

end Reconcile
