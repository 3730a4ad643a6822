import Reconcile.Proofs.Network.Stability
import Reconcile.Proofs.Reference.Within

namespace Reconcile

namespace Address

variable {a : Address} {c : Context} {p : Payload} {identity identity' : Fields}
  {subnetwork region : Option Reference} {project back : String}

inductive Refers (a : Address) (identity : Fields) : String → Reference → Prop
  | subnetwork {value : String} {x : Reference} : a.subnetwork = some value →
      Reference.resolve "subnetwork" value "subnetworks" .regional (Keyed.get? "project" identity)
        (Keyed.get? "region" identity) = .ok x → Refers a identity "subnetwork" x
  | region {value : String} {x : Reference} : a.region = some value →
      Reference.resolve "region" value "regions" .project (Keyed.get? "project" identity) none =
        .ok x → Refers a identity "region" x

def referenceKeys : List String := ["subnetwork", "region"]

/-- A default region can be read back. -/
def Anchored (a : Address) (c : Context) : Prop :=
  a.region = none → ∀ region ∈ c.region, IsSegment region

theorem oneOf_eq_ok_iff {field : String} {value : Option String} {allowed : List String} :
    oneOf field value allowed = .ok () ↔ ∀ v ∈ value, v ∈ allowed := by
  cases value with
  | none => simp [oneOf]
  | some v =>
      simp only [oneOf, Option.mem_def, Option.some.injEq, forall_eq', List.contains_iff_mem]
      split
      · next hmem => exact iff_of_true rfl hmem
      · next hmem => exact iff_of_false nofun hmem

theorem allowed_of_expand (h : a.expand c = .ok p) :
    (∀ v ∈ a.addressType, v ∈ types) ∧ ∀ v ∈ a.networkTier, v ∈ tiers := by
  unfold expand at h
  obtain ⟨⟨⟩, htype, h⟩ := bind_eq_ok_iff.1 h
  obtain ⟨⟨⟩, htier, _⟩ := bind_eq_ok_iff.1 h
  exact ⟨oneOf_eq_ok_iff.1 htype, oneOf_eq_ok_iff.1 htier⟩

theorem exists_expand (htype : ∀ v ∈ a.addressType, v ∈ types)
    (htier : ∀ v ∈ a.networkTier, v ∈ tiers)
    (hidentity : a.identity c = .ok identity) (hrefers : a.RefersTo identity subnetwork region) :
    ∃ p, a.expand c = .ok p ∧ p.Carries (a.written subnetwork region) := by
  refine ⟨.ofEntries (a.written subnetwork region), ?_, carries_written a subnetwork region⟩
  rw [expand_eq, oneOf_eq_ok_iff.2 htype, oneOf_eq_ok_iff.2 htier, hidentity]
  simp only [ok_bind, targets_eq_ok_iff.2 hrefers]
  rfl

theorem allowed_hydrated (identity : Fields) (hexpand : a.expand c = .ok p) :
    (∀ v ∈ (flatten p.json identity).addressType, v ∈ types) ∧
      ∀ v ∈ (flatten p.json identity).networkTier, v ∈ tiers := by
  obtain ⟨_, _, _, _, _, hcarries⟩ := expand_eq_ok hexpand
  obtain ⟨htype, htier⟩ := allowed_of_expand hexpand
  have hkept : ∀ {allowed : List String} {declared : Option String}, (∀ v ∈ declared, v ∈ allowed) →
      ∀ v ∈ filled declared, v ∈ allowed := by
    intro allowed declared h v hv
    exact h v (Option.mem_filter_iff.1 hv).1
  have hsent : p.json.get? "addressType" = a.addressType.map .str := hcarries "addressType"
  have htypeBack : (flatten p.json identity).addressType =
      some ((filled a.addressType).getD usualType) := by
    rw [← flattenType_declared, ← hsent]
    rfl
  have htierBack : (flatten p.json identity).networkTier = filled a.networkTier :=
    Wire.string?_of_text (hcarries "networkTier")
  rw [htypeBack, htierBack]
  refine ⟨?_, hkept htier⟩
  rintro v ⟨⟩
  cases hdeclared : filled a.addressType with
  | none => decide
  | some v => exact hkept htype v hdeclared

theorem exists_region_back (hidentity : a.identity c = .ok identity)
    (hrefers : a.RefersTo identity subnetwork region) (hanchored : a.Anchored c) :
    ∃ back, (region.map (·.name) <|> Keyed.get? "region" identity) = some back ∧
      IsSegment back := by
  have hlinked := hrefers.region
  generalize hvalue : a.region = value at hlinked
  cases hlinked with
  | some hr => exact ⟨_, rfl, Reference.isSegment_of_resolve hr⟩
  | none =>
      obtain ⟨project, default, hregion, rfl⟩ := identity_eq_identified hidentity
      rw [regionOf_eq_ok_iff, hvalue] at hregion
      exact ⟨default, get?_region_identified, hanchored hvalue default hregion⟩

theorem slash_free_region (hidentity : a.identity c = .ok identity) (hanchored : a.Anchored c) :
    ∀ text, Keyed.get? "region" identity = some text → '/' ∉ text.toList := by
  obtain ⟨project, region, hregion, rfl⟩ := identity_eq_identified hidentity
  intro text htext
  rw [get?_region_identified, Option.some.injEq] at htext
  subst htext
  rw [regionOf_eq_ok_iff] at hregion
  cases hvalue : a.region with
  | none =>
      rw [hvalue] at hregion
      exact (hanchored hvalue region hregion).2
  | some value =>
      rw [hvalue] at hregion
      cases hregion
      rw [SelfLink.name, String.toList_ofList]
      exact SelfLink.not_mem_nameChars _

theorem hydrated_links (hrefers : a.RefersTo identity subnetwork region)
    (hcarries : p.Carries (a.written subnetwork region)) :
    (flatten p.json identity).subnetwork = subnetwork.map (·.name) ∧
      (flatten p.json identity).region =
        (region.map (·.name) <|> Keyed.get? "region" identity) := by
  have hsubnetwork : (Wire.string? p.json "subnetwork").map SelfLink.name =
      subnetwork.map (·.name) :=
    Wire.name_of_link hrefers.subnetwork (hcarries "subnetwork")
  have hregion : (Wire.string? p.json "region").map SelfLink.name = region.map (·.name) :=
    Wire.name_of_link hrefers.region (hcarries "region")
  refine ⟨hsubnetwork, ?_⟩
  rw [← hregion]
  rfl

theorem hydrated_refers {t : Address} (hproject : Keyed.get? "project" identity' = some project)
    (hregion : Keyed.get? "region" identity' = some back) (hback : IsSegment back)
    (hrefers : a.RefersTo identity subnetwork region)
    (hsubnetwork : t.subnetwork = subnetwork.map (·.name)) (hkept : t.region = some back) :
    t.RefersTo identity' (subnetwork.map (·.within identity'))
      (some ⟨project, none, "regions", back, .project⟩) := by
  constructor
  · rw [hsubnetwork]
    apply Reference.linked_within hrefers.subnetwork hproject
    intro x _ _ hscope
    simp only [Reference.within, hscope, hregion, if_true]
    rfl
  · rw [hkept, hproject]
    exact .some (Reference.resolve_bare hback rfl)

theorem region_within (hproject : Keyed.get? "project" identity' = some project)
    (hrefers : a.RefersTo identity subnetwork region) :
    ∀ x ∈ region, x.within identity' = ⟨project, none, "regions", x.name, .project⟩ := by
  intro x hx
  obtain ⟨_, _, hr⟩ := Reference.exists_of_linked hrefers.region x hx
  obtain ⟨hcollection, hscope⟩ := Reference.kind_of_resolve hr
  have hnone := Reference.location_eq_none (Reference.located_of_resolve hr) (.inl hscope)
  simp [Reference.within, hproject, hcollection, hscope, hnone]

theorem same_link_iff {x : Reference} {key : String} (hidentity : a.identity c = .ok identity)
    (hanchored : a.Anchored c) (hrefers : a.Refers identity key x)
    (hproject : Keyed.get? "project" identity' = some project)
    (hregion : Keyed.get? "region" identity' = some back) (hback : IsSegment back) :
    (x.within identity').relativeLink = x.relativeLink ↔ x.Within identity' := by
  cases hrefers with
  | subnetwork _ hr =>
      refine Reference.relativeLink_within_iff hproject (Reference.located_of_resolve hr) ?_
        fun _ => ⟨back, hregion, hback.2⟩
      intro text htext
      rcases (Reference.parts_of_resolve hr).2 text htext with hsegment | hdefault
      · exact hsegment.2
      · exact slash_free_region hidentity hanchored text hdefault
  | region _ hr =>
      have hlocated := Reference.located_of_resolve hr
      have hnone := Reference.location_eq_none hlocated (.inl (Reference.kind_of_resolve hr).2)
      exact Reference.relativeLink_within_iff hproject hlocated (by simp [hnone])
        fun _ => ⟨back, hregion, hback.2⟩

theorem refers_of_refersTo (hrefers : a.RefersTo identity subnetwork region) :
    (∀ x ∈ subnetwork, a.Refers identity "subnetwork" x) ∧
      ∀ x ∈ region, a.Refers identity "region" x := by
  constructor
  · intro x hx
    obtain ⟨_, hvalue, hr⟩ := Reference.exists_of_linked hrefers.subnetwork x hx
    exact .subnetwork hvalue hr
  · intro x hx
    obtain ⟨_, hvalue, hr⟩ := Reference.exists_of_linked hrefers.region x hx
    exact .region hvalue hr

theorem hydrated_declaration (hidentity : a.identity c = .ok identity)
    (hexpand : a.expand c = .ok p) (hrefers : a.RefersTo identity subnetwork region)
    (hcarries : p.Carries (a.written subnetwork region)) (hanchored : a.Anchored c) :
    ∃ identity' project back, (flatten p.json identity).identity c = .ok identity' ∧
      Keyed.get? "project" identity = some project ∧
      Keyed.get? "project" identity' = some project ∧ Keyed.get? "region" identity' = some back ∧
      IsSegment back ∧ (∀ x ∈ region, x.name = back) ∧
      (flatten p.json identity).RefersTo identity' (subnetwork.map (·.within identity'))
        (some ⟨project, none, "regions", back, .project⟩) := by
  obtain ⟨back, hkept, hback⟩ := exists_region_back hidentity hrefers hanchored
  obtain ⟨hsubnetwork, hregion⟩ := hydrated_links hrefers hcarries
  rw [hkept] at hregion
  have hnamed : ∀ x ∈ region, x.name = back := by
    rintro x hx
    cases hx
    exact Option.some.inj hkept
  obtain ⟨hvalid, project, declared, _, _, rfl⟩ := identity_eq_ok_iff.1 hidentity
  obtain ⟨hname, hproject⟩ := hydrated_parts hidentity hexpand
  have hagain := identity_of_parts (by rwa [hname]) hproject hregion c
  rw [SelfLink.name_eq_self_iff.2 hback.2] at hagain
  exact ⟨_, project, back, hagain, get?_project_identified, get?_project_identified,
    get?_region_identified, hback, hnamed, hydrated_refers get?_project_identified
      get?_region_identified hback hrefers hsubnetwork hregion⟩

theorem expand_hydrated (hidentity : a.identity c = .ok identity) (hexpand : a.expand c = .ok p)
    (hanchored : a.Anchored c) :
    ∃ identity' again, (flatten p.json identity).identity c = .ok identity' ∧
      Keyed.get? "project" identity' = Keyed.get? "project" identity ∧
      (flatten p.json identity).expand c = .ok again ∧
      ∀ key ∈ referenceKeys, ∀ link, p.get? key = some link →
        ∃ x, a.Refers identity key x ∧ x.Renames identity' link (again.get? key) := by
  obtain ⟨_, subnetwork, region, hidentity', hrefers, hcarries⟩ := expand_eq_ok hexpand
  rw [hidentity, Except.ok.injEq] at hidentity'
  subst hidentity'
  obtain ⟨identity', project, back, hagain, hproject, hproject', hregion, hback, hnamed,
    hrefers'⟩ := hydrated_declaration hidentity hexpand hrefers hcarries hanchored
  obtain ⟨htype, htier⟩ := allowed_hydrated identity hexpand
  obtain ⟨again, hexpand', hsent⟩ := exists_expand htype htier hagain hrefers'
  obtain ⟨hsubnetwork, hlinked⟩ := refers_of_refersTo hrefers
  have hsame := fun key x (h : a.Refers identity key x) =>
    same_link_iff hidentity hanchored h hproject' hregion hback
  refine ⟨identity', again, hagain, by rw [hproject, hproject'], hexpand', ?_⟩
  intro key hkey link hlink
  simp only [referenceKeys, List.mem_cons, List.not_mem_nil, or_false] at hkey
  rcases hkey with rfl | rfl
  · exact Reference.exists_renames (hcarries "subnetwork") hsubnetwork
      (Reference.link_within (hsent "subnetwork")) (hsame _) hlink
  · refine Reference.exists_renames (hcarries "region") hlinked ?_ (hsame _) hlink
    intro x hx
    rw [region_within hproject' hrefers x hx, hnamed x hx]
    exact hsent "region"

end Address

namespace Route

variable {r : Route} {c : Context} {p : Payload} {identity : Fields} {t : Targets}
  {project : String}

inductive Refers (r : Route) (c : Context) (identity : Fields) : String → Reference → Prop
  | network {x : Reference} :
      Reference.resolve "network" r.network "networks" .global (Keyed.get? "project" identity)
        none = .ok x → Refers r c identity "network" x
  | nextHopInstance {value : String} {x : Reference} : r.nextHopInstance = some value →
      Reference.resolve "next_hop_instance" value "instances" .zonal
        (Keyed.get? "project" identity) (r.nextHopInstanceZone <|> c.zone) = .ok x →
      Refers r c identity "nextHopInstance" x
  | nextHopGateway {value : String} {x : Reference} : r.nextHopGateway = some value →
      Reference.resolve "next_hop_gateway" value "gateways" .global
        (Keyed.get? "project" identity) none = .ok x → Refers r c identity "nextHopGateway" x
  | nextHopNetwork {value : String} {x : Reference} : r.nextHopNetwork = some value →
      Reference.resolve "next_hop_network" value "networks" .global
        (Keyed.get? "project" identity) none = .ok x → Refers r c identity "nextHopNetwork" x

def referenceKeys : List String :=
  ["network", "nextHopInstance", "nextHopGateway", "nextHopNetwork"]

/-- The link to the instance can be read back. -/
def Anchored (r : Route) (c : Context) : Prop :=
  ∀ identity hop, r.identity c = .ok identity → r.Refers c identity "nextHopInstance" hop →
    IsSegment hop.project ∧ ∀ zone ∈ hop.location, IsSegment zone

def Targets.within (t : Targets) (identity : Fields) : Targets where
  network := t.network.within identity
  nextHopInstance := t.nextHopInstance.map (·.within identity)
  nextHopGateway := t.nextHopGateway.map (·.within identity)
  nextHopNetwork := t.nextHopNetwork.map (·.within identity)

theorem refers_of_refersTo (hrefers : r.RefersTo c identity t) :
    (∀ x ∈ some t.network, r.Refers c identity "network" x) ∧
      (∀ x ∈ t.nextHopInstance, r.Refers c identity "nextHopInstance" x) ∧
      (∀ x ∈ t.nextHopGateway, r.Refers c identity "nextHopGateway" x) ∧
      ∀ x ∈ t.nextHopNetwork, r.Refers c identity "nextHopNetwork" x := by
  refine ⟨?_, ?_, ?_, ?_⟩
  · intro x hx
    obtain ⟨_, ⟨⟩, hr⟩ := Reference.exists_of_linked hrefers.network x hx
    exact .network hr
  · intro x hx
    obtain ⟨_, hvalue, hr⟩ := Reference.exists_of_linked hrefers.nextHopInstance x hx
    exact .nextHopInstance hvalue hr
  · intro x hx
    obtain ⟨_, hvalue, hr⟩ := Reference.exists_of_linked hrefers.nextHopGateway x hx
    exact .nextHopGateway hvalue hr
  · intro x hx
    obtain ⟨_, hvalue, hr⟩ := Reference.exists_of_linked hrefers.nextHopNetwork x hx
    exact .nextHopNetwork hvalue hr

theorem priority_of_sent (hbounded : ∀ n ∈ r.priority, 0 ≤ n ∧ n ≤ 65535)
    (hcarried : p.get? "priority" = r.priority.map .int) :
    Wire.int? p.json "priority" = r.priority := by
  have hget : p.json.get? "priority" = r.priority.map .int := hcarried
  cases hpriority : r.priority with
  | none =>
      rw [hpriority] at hget
      simp [Wire.int?, hget]
  | some n =>
      have hmost : n ≤ Decode.maxSigned := (hbounded n hpriority).2.trans (by decide)
      rw [hpriority] at hget
      simp [Wire.int?, hget, hmost]

def echoed (r : Route) (identity : Fields) (t : Targets) : Route :=
  { r.canonical identity t (linkZone t) with priority := r.priority }

theorem flatten_sent (hvalid : r.validate = .ok ()) (hidentity : r.identity c = .ok identity)
    (hrefers : r.RefersTo c identity t) (hcarries : p.Carries (r.written t)) :
    flatten p.json identity = r.echoed identity t := by
  obtain ⟨hranged, _, hbounded, _⟩ := validate_eq_ok_iff.1 hvalid
  rw [flatten_of_written p.json hranged hidentity hrefers fun _ => hcarries _,
    priority_of_sent hbounded (hcarries "priority"), echoed]

theorem any_filled (declared : Option String) :
    (filled declared).any (!·.isEmpty) = declared.any (!·.isEmpty) := by
  rw [← isSome_filled, ← isSome_filled, filled_filled]

theorem any_name {field collection : String} {scope : Scope}
    {ambient fallback declared : Option String} {linked : Option Reference}
    (h : Reference.Linked (Reference.resolve field · collection scope ambient fallback) declared
      linked) :
    (linked.map (·.name)).any (!·.isEmpty) = declared.any (!·.isEmpty) := by
  cases h with
  | none => rfl
  | some hr =>
      have hvalue := Reference.isEmpty_of_resolve hr
      have hname := (Reference.isSegment_of_resolve hr).isEmpty
      rw [Option.map_some, Option.any_some, Option.any_some, hvalue, hname]

theorem nextHops_echoed (hrefers : r.RefersTo c identity t) :
    (r.echoed identity t).nextHops = r.nextHops := by
  simp only [nextHops, echoed, canonical, List.filterMap_cons, any_filled,
    any_name hrefers.nextHopInstance, any_name hrefers.nextHopGateway,
    any_name hrefers.nextHopNetwork]

theorem validate_echoed (hvalid : r.validate = .ok ()) (hrefers : r.RefersTo c identity t) :
    (r.echoed identity t).validate = .ok () := by
  obtain ⟨hrange, _, hbounded, hhops⟩ := validate_eq_ok_iff.1 hvalid
  obtain ⟨_, _, hr⟩ := Reference.exists_of_linked hrefers.network _ rfl
  have hnetwork : t.network.name.isEmpty = false := (Reference.isSegment_of_resolve hr).isEmpty
  refine validate_eq_ok_iff.2 ⟨hrange, hnetwork, hbounded, ?_⟩
  rw [checkHops, nextHops_echoed hrefers]
  exact hhops

theorem linkZone_eq (hidentity : r.identity c = .ok identity) (hanchored : r.Anchored c)
    (hrefers : r.RefersTo c identity t) : ∀ hop ∈ t.nextHopInstance, linkZone t = hop.location := by
  intro hop hhop
  obtain ⟨hproject, hzones⟩ :=
    hanchored identity hop hidentity ((refers_of_refersTo hrefers).2.1 hop hhop)
  obtain ⟨_, _, hr⟩ := Reference.exists_of_linked hrefers.nextHopInstance hop hhop
  obtain ⟨zone, hzone⟩ := Option.isSome_iff_exists.1
    ((Reference.located_of_resolve hr).2 (.inr (Reference.kind_of_resolve hr).2))
  have hread : linkZone t = zoneOfInstance? hop.relativeLink := by
    rw [linkZone, Option.mem_def.1 hhop, Option.bind_some]
  rw [hread, zoneOfInstance?_relativeLink hr hzone, if_pos ⟨hproject, hzones zone hzone⟩, hzone]

theorem refersTo_echoed (hidentity : r.identity c = .ok identity) (hanchored : r.Anchored c)
    (hproject : Keyed.get? "project" identity = some project)
    (hrefers : r.RefersTo c identity t) :
    (r.echoed identity t).RefersTo c identity (t.within identity) := by
  have hglobal : ∀ {field : String} {x : Reference}, x.Located → x.scope = .global →
      Reference.place field x.name .global none none = .ok (x.within identity).location := by
    intro field x hlocated hscope
    rw [← hscope]
    exact Reference.place_within hlocated (.inr hscope)
  constructor
  · exact Reference.linked_within hrefers.network hproject fun _ _ => hglobal
  · refine Reference.linked_within hrefers.nextHopInstance hproject ?_
    intro hop hhop hlocated hscope
    obtain ⟨zone, hzone⟩ := Option.isSome_iff_exists.1 (hlocated.2 (.inr hscope))
    have hback : (r.echoed identity t).nextHopInstanceZone = some zone := by
      rw [← hzone]
      exact linkZone_eq hidentity hanchored hrefers hop hhop
    have hkept : (hop.within identity).location = some zone := by
      simp [Reference.within, hscope, hzone]
    rw [hback, hkept]
    rfl
  · exact Reference.linked_within hrefers.nextHopGateway hproject fun _ _ => hglobal
  · exact Reference.linked_within hrefers.nextHopNetwork hproject fun _ _ => hglobal

theorem same_link_iff {key : String} {x : Reference} (hidentity : r.identity c = .ok identity)
    (hanchored : r.Anchored c) (hproject : Keyed.get? "project" identity = some project)
    (hrefers : r.Refers c identity key x) :
    (x.within identity).relativeLink = x.relativeLink ↔ x.Within identity := by
  have hunplaced : ∀ {field value collection : String} {scope : Scope}
      {ambient fallback : Option String}, scope = .global →
      Reference.resolve field value collection scope ambient fallback = .ok x →
      ((x.within identity).relativeLink = x.relativeLink ↔ x.Within identity) := by
    rintro field value collection scope ambient fallback rfl hr
    have hlocated := Reference.located_of_resolve hr
    have hscope := (Reference.kind_of_resolve hr).2
    have hnone := Reference.location_eq_none hlocated (.inr hscope)
    exact Reference.relativeLink_within_iff hproject hlocated (by simp [hnone]) (by simp [hscope])
  have hplaced := hanchored identity x hidentity
  cases hrefers with
  | network hr => exact hunplaced rfl hr
  | nextHopGateway _ hr => exact hunplaced rfl hr
  | nextHopNetwork _ hr => exact hunplaced rfl hr
  | nextHopInstance hvalue hr =>
      obtain ⟨_, hzones⟩ := hplaced (.nextHopInstance hvalue hr)
      exact Reference.relativeLink_within_iff hproject (Reference.located_of_resolve hr)
        (fun zone hzone => (hzones zone hzone).2) (by simp [(Reference.kind_of_resolve hr).2])

theorem expand_hydrated (hidentity : r.identity c = .ok identity) (hexpand : r.expand c = .ok p)
    (hanchored : r.Anchored c) :
    ∃ again, (flatten p.json identity).expand c = .ok again ∧
      ∀ key ∈ referenceKeys, ∀ link, p.get? key = some link →
        ∃ x, r.Refers c identity key x ∧ x.Renames identity link (again.get? key) := by
  obtain ⟨_, t, hvalid, hidentity', hrefers, hcarries⟩ := expand_eq_ok hexpand
  rw [hidentity, Except.ok.injEq] at hidentity'
  subst hidentity'
  obtain ⟨project, hproject⟩ : ∃ project, Keyed.get? "project" identity = some project := by
    obtain ⟨_, project, _, rfl⟩ := identity_eq_ok_iff.1 hidentity
    exact ⟨project, by rw [Keyed.get?_ofList]; rfl⟩
  have hagain := hydrated_identity hidentity hexpand c
  rw [flatten_sent hvalid hidentity hrefers hcarries] at hagain ⊢
  obtain ⟨again, hexpand', hsent⟩ := exists_expand (validate_echoed hvalid hrefers) hagain
    (refersTo_echoed hidentity hanchored hproject hrefers)
  obtain ⟨hnetwork, hinstance, hgateway, hnext⟩ := refers_of_refersTo hrefers
  have hsame := fun key x (h : r.Refers c identity key x) =>
    same_link_iff hidentity hanchored hproject h
  refine ⟨again, hexpand', ?_⟩
  intro key hkey link hlink
  simp only [referenceKeys, List.mem_cons, List.not_mem_nil, or_false] at hkey
  rcases hkey with rfl | rfl | rfl | rfl
  · have hfirst : p.get? "network" = (some t.network).map (.str ·.relativeLink) :=
      hcarries "network"
    refine Reference.exists_renames hfirst hnetwork ?_ (hsame _) hlink
    rintro x ⟨⟩
    exact hsent "network"
  · exact Reference.exists_renames (hcarries "nextHopInstance") hinstance
      (Reference.link_within (hsent "nextHopInstance")) (hsame _) hlink
  · exact Reference.exists_renames (hcarries "nextHopGateway") hgateway
      (Reference.link_within (hsent "nextHopGateway")) (hsame _) hlink
  · exact Reference.exists_renames (hcarries "nextHopNetwork") hnext
      (Reference.link_within (hsent "nextHopNetwork")) (hsame _) hlink

end Route

namespace Family

def referenceKeys : Family → List String
  | .address => Address.referenceKeys
  | .route => Route.referenceKeys

def Refers : (f : Family) → f.State → Context → Fields → String → Reference → Prop
  | .address, a, _ => a.Refers
  | .route, r, c => r.Refers c

def Anchored : (f : Family) → f.State → Context → Prop
  | .address, a, c => a.Anchored c
  | .route, r, c => r.Anchored c

end Family

/-- What comes back of a declared state can be declared again. Each reference that was sent is then
sent as the object of the same name in the project of the identity, for a subnetwork also in its
region, and for an instance in the zone that it had. So it is the same link exactly if the object
lies there. -/
theorem hydrated_references (f : Family) (state : f.State) (c : Context) {p : Payload}
    (hexpand : f.kind.expand state c = .ok p) (hanchored : f.Anchored state c) :
    ∃ identity identity' again, f.kind.identity state c = .ok identity ∧
      f.kind.identity (f.kind.flatten p.json identity) c = .ok identity' ∧
      Keyed.get? "project" identity' = Keyed.get? "project" identity ∧
      (f.Settled state c → identity' = identity) ∧
      f.kind.expand (f.kind.flatten p.json identity) c = .ok again ∧
      ∀ key ∈ f.referenceKeys, ∀ link, p.get? key = some link →
        ∃ x, f.Refers state c identity key x ∧ x.Renames identity' link (again.get? key) := by
  cases f with
  | address =>
      obtain ⟨identity, _, _, hidentity, _⟩ := Address.expand_eq_ok hexpand
      obtain ⟨identity', again, hagain, hproject, hrenamed⟩ :=
        Address.expand_hydrated hidentity hexpand hanchored
      obtain ⟨back, hback, hsettled, _⟩ := Address.hydrated_identity hidentity hexpand
      have hsame : back = identity' := Except.ok.inj ((hback c).symm.trans hagain)
      rw [hsame] at hsettled
      exact ⟨identity, identity', again, hidentity, hagain, hproject, hsettled.2, hrenamed⟩
  | route =>
      obtain ⟨identity, _, _, hidentity, _⟩ := Route.expand_eq_ok hexpand
      obtain ⟨again, hrenamed⟩ := Route.expand_hydrated hidentity hexpand hanchored
      exact ⟨identity, identity, again, hidentity, Route.hydrated_identity hidentity hexpand c, rfl,
        fun _ => rfl, hrenamed⟩

namespace Shared

def context : Context := .ofDefaults ⟨some "p1", none, some "us-central1-b"⟩

def address : Address := { Address.blank with name := "web", subnetwork := some "back" }

def link : Json := .str "projects/p1/regions/us-central1/subnetworks/back"

def reserved : Payload := ⟨[("name", .str "web"), ("subnetwork", link)]⟩

theorem bare_subnetwork_kept :
    address.expand context = .ok reserved ∧ address.Anchored context ∧
    ∃ identity again x, address.identity context = .ok identity ∧
      (Address.flatten reserved.json identity).expand context = .ok again ∧
      address.Refers identity "subnetwork" x ∧
      x.Renames identity link (again.get? "subnetwork") ∧ again.get? "subnetwork" = some link := by
  have hexpand : address.expand context = .ok reserved := by rfl
  have hanchored : address.Anchored context := by
    rintro _ region ⟨⟩
    decide
  have hsettled : address.Settled context := by
    rintro region ⟨⟩
    decide
  obtain ⟨identity, identity', again, hidentity, _, _, hsame, hagain, hrenamed⟩ :=
    hydrated_references .address address context hexpand hanchored
  obtain ⟨x, hrefers, hrenames⟩ := hrenamed "subnetwork" (by decide) link rfl
  rw [hsame hsettled] at hrenames
  refine ⟨hexpand, hanchored, identity, again, x, hidentity, hagain, hrefers, hrenames, ?_⟩
  cases hidentity
  cases hagain
  rfl

def route : Route :=
  { Route.blank with
    name := "to-nat", destRange := "0.0.0.0/0"
    network := "projects/shared/global/networks/vpc", nextHopIp := some "10.0.0.1" }

def payload (project : String) : Payload :=
  ⟨[("destRange", .str "0.0.0.0/0"), ("name", .str "to-nat"),
    ("network", .str ("projects/" ++ project ++ "/global/networks/vpc")),
    ("nextHopIp", .str "10.0.0.1")]⟩

/-- A network of another project comes back by its name, and is then one of the own project. -/
theorem shared_network_replaced :
    route.expand context = .ok (payload "shared") ∧
    ∃ identity, route.identity context = .ok identity ∧
      (Route.flatten (payload "shared").json identity).expand context = .ok (payload "p1") ∧
      (payload "p1").get? "network" ≠ (payload "shared").get? "network" := by
  refine ⟨by rfl, _, rfl, by rfl, ?_⟩
  simp [payload, Payload.get?, Keyed.get?]

end Shared

end Reconcile
