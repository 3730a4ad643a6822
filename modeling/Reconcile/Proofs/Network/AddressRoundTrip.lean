import Reconcile.Proofs.Network.Regular
import Reconcile.Proofs.Wire.Put

namespace Reconcile.Address

variable {a : Address} {c : Context} {p : Payload} {identity : Fields}
  {subnetwork region : Option Reference}

def written (a : Address) (subnetwork region : Option Reference) :
    List (String × Option Json) := [
  ("address", (filled a.address).map .str),
  ("addressType", a.addressType.map .str),
  ("description", (filled a.description).map .str),
  ("name", (filled (some a.name)).map .str),
  ("networkTier", (filled a.networkTier).map .str),
  ("subnetwork", subnetwork.map (.str ·.relativeLink)),
  ("region", region.map (.str ·.relativeLink))]

structure RefersTo (a : Address) (identity : Fields) (subnetwork region : Option Reference) :
    Prop where
  subnetwork : Reference.Linked (Reference.resolve "subnetwork" · "subnetworks" .regional
    (Keyed.get? "project" identity) (Keyed.get? "region" identity)) a.subnetwork subnetwork
  region : Reference.Linked (Reference.resolve "region" · "regions" .project
    (Keyed.get? "project" identity) none) a.region region

def targets (a : Address) (identity : Fields) :
    Except Failure (Option Reference × Option Reference) := do
  let project := Keyed.get? "project" identity
  let inRegion := Keyed.get? "region" identity
  let subnetwork ← a.subnetwork.mapM
    (Reference.resolve "subnetwork" · "subnetworks" .regional project inRegion)
  let region ← a.region.mapM (Reference.resolve "region" · "regions" .project project none)
  pure (subnetwork, region)

theorem targets_eq_ok_iff :
    a.targets identity = .ok (subnetwork, region) ↔ a.RefersTo identity subnetwork region := by
  simp only [targets, bind_eq_ok_iff]
  constructor
  · rintro ⟨_, hsubnetwork, _, hregion, ⟨⟩⟩
    exact ⟨Reference.linked_iff.2 hsubnetwork, Reference.linked_iff.2 hregion⟩
  · rintro ⟨hsubnetwork, hregion⟩
    exact ⟨subnetwork, Reference.linked_iff.1 hsubnetwork, region, Reference.linked_iff.1 hregion,
      rfl⟩

theorem expand_eq (a : Address) (c : Context) :
    a.expand c =
      (do
        oneOf "address_type" a.addressType types
        oneOf "network_tier" a.networkTier tiers
        let identity ← a.identity c
        let (subnetwork, region) ← a.targets identity
        pure (.ofEntries (a.written subnetwork region))) := by
  have husual : ∀ value, (Json.str value).isZero = true →
      (Json.str usualType).same (.str value) = false := by
    intro value hvalue
    rw [String.isEmpty_iff.1 hvalue]
    rfl
  have htype : ∀ p : Payload, p.putPlain "addressType" a.addressType (some usualType) .str =
      .ok (p.storing "addressType" (a.addressType.map .str)) :=
    fun p => Payload.putUsual_eq rfl husual
  unfold expand
  simp only [htype, Payload.putPlain_eq, Payload.putLink_eq, targets, ok_bind, map_bind_eq,
    bind_assoc, pure_bind]
  rfl

theorem carries_written (a : Address) (subnetwork region : Option Reference) :
    (Payload.ofEntries (a.written subnetwork region)).Carries (a.written subnetwork region) :=
  Payload.carries_ofEntries (by simp [written])

theorem expand_eq_ok (h : a.expand c = .ok p) :
    ∃ identity subnetwork region, a.identity c = .ok identity ∧
      a.RefersTo identity subnetwork region ∧ p.Carries (a.written subnetwork region) := by
  rw [expand_eq] at h
  obtain ⟨_, _, h⟩ := bind_eq_ok_iff.1 h
  obtain ⟨_, _, h⟩ := bind_eq_ok_iff.1 h
  obtain ⟨identity, hidentity, h⟩ := bind_eq_ok_iff.1 h
  obtain ⟨⟨subnetwork, region⟩, htargets, ⟨⟩⟩ := bind_eq_ok_iff.1 h
  exact ⟨identity, subnetwork, region, hidentity, targets_eq_ok_iff.1 htargets,
    carries_written a subnetwork region⟩

/-- The declared state as it comes back: a short name for a link, nothing for an empty text. -/
def canonical (a : Address) (identity : Fields) (subnetwork region : Option Reference) :
    Address where
  name := a.name
  address := filled a.address
  addressType := some ((filled a.addressType).getD usualType)
  description := filled a.description
  networkTier := filled a.networkTier
  region := region.map (·.name) <|> Keyed.get? "region" identity
  subnetwork := subnetwork.map (·.name)
  project := Keyed.get? "project" identity
  creationTimestamp := none
  users := []
  selfLink := none

theorem get?_name (h : a.identity c = .ok identity) :
    Keyed.get? "name" identity = some a.name := by
  obtain ⟨project, region, _, _, rfl⟩ := identity_eq_ok h
  rw [Keyed.get?_ofList]
  rfl

theorem flattenType_declared (declared : Option String) :
    flattenType (declared.map .str) = (filled declared).getD usualType := by
  cases declared <;> rfl

/-- An address comes back in canonical form from a server that keeps the request body. -/
theorem flatten_expand (h : a.expand c = .ok p) :
    ∃ identity subnetwork region, a.identity c = .ok identity ∧
      a.RefersTo identity subnetwork region ∧
      flatten p.json identity = a.canonical identity subnetwork region := by
  obtain ⟨identity, subnetwork, region, hidentity, hrefers, hcarries⟩ := expand_eq_ok h
  refine ⟨identity, subnetwork, region, hidentity, hrefers, ?_⟩
  have hname : Wire.string? p.json "name" = filled (some a.name) :=
    Wire.string?_of_text (hcarries "name")
  have haddress : Wire.string? p.json "address" = filled a.address :=
    Wire.string?_of_text (hcarries "address")
  have htype : p.json.get? "addressType" = a.addressType.map .str := hcarries "addressType"
  have hdescription : Wire.string? p.json "description" = filled a.description :=
    Wire.string?_of_text (hcarries "description")
  have htier : Wire.string? p.json "networkTier" = filled a.networkTier :=
    Wire.string?_of_text (hcarries "networkTier")
  have hregion : (Wire.string? p.json "region").map SelfLink.name = region.map (·.name) :=
    Wire.name_of_link hrefers.region (hcarries "region")
  have hsubnetwork : (Wire.string? p.json "subnetwork").map SelfLink.name =
      subnetwork.map (·.name) :=
    Wire.name_of_link hrefers.subnetwork (hcarries "subnetwork")
  have hcreated : Wire.string? p.json "creationTimestamp" = none :=
    Wire.string?_of_none (hcarries "creationTimestamp")
  have husers : Wire.strings p.json "users" = [] := Wire.strings_of_none (hcarries "users")
  have hself : Wire.string? p.json "selfLink" = none := Wire.string?_of_none (hcarries "selfLink")
  simp only [flatten, canonical, hname, get?_name hidentity, filled_or_self, haddress, htype,
    flattenType_declared, hdescription, htier, hregion, hsubnetwork, hcreated, husers, hself]
  rfl

namespace Reserved

def context : Context := .ofDefaults ⟨some "p1", none, some "us-central1-b"⟩

def declared : Address :=
  { blank with
    name := "web", address := some "10.0.0.7", addressType := some "", description := some ""
    subnetwork := some "regions/us-east1/subnetworks/back" }

def payload : Payload :=
  ⟨[("address", .str "10.0.0.7"), ("addressType", .str ""), ("name", .str "web"),
    ("subnetwork", .str "projects/p1/regions/us-east1/subnetworks/back")]⟩

theorem flatten_expand_declared :
    declared.expand context = .ok payload ∧
    ∃ identity subnetwork region, declared.identity context = .ok identity ∧
      declared.RefersTo identity subnetwork region ∧
      flatten payload.json identity = declared.canonical identity subnetwork region ∧
      flatten payload.json identity = { blank with
        name := "web", address := some "10.0.0.7", addressType := some "EXTERNAL"
        region := some "us-central1", subnetwork := some "back", project := some "p1" } := by
  have hexpand : declared.expand context = .ok payload := by rfl
  obtain ⟨identity, subnetwork, region, hidentity, hrefers, hflatten⟩ := flatten_expand hexpand
  refine ⟨hexpand, identity, subnetwork, region, hidentity, hrefers, hflatten, ?_⟩
  cases hidentity
  rfl

end Reserved

end Reconcile.Address
