import Reconcile.Proofs.Network.AddressRoundTrip
import Reconcile.Proofs.Network.Paths
import Reconcile.Proofs.Network.RouteRoundTrip

namespace Reconcile

structure Kind.Nested {σ : Type} (k : Kind σ) : Prop where
  rooted : ∃ rest, k.collectionPath.segments = .literal "projects/".toList :: rest
  nested : ∀ fields, k.selfPath.segments.flatMap (Template.Segment.value fields) =
    k.collectionPath.segments.flatMap (Template.Segment.value fields) ++
      '/' :: ((Keyed.get? "name" fields).getD "").toList
  named : ∀ {state : σ} {c : Context} {identity : Fields} {p : Payload},
    k.identity state c = .ok identity → k.expand state c = .ok p →
    ∃ project name, Keyed.get? "project" identity = some project ∧
      Keyed.get? "name" identity = some name ∧ p.get? "name" = some (.str name)

theorem Context.url_of_rooted (c : Context) {path : String} {rest : List Char}
    (h : path.toList = "projects/".toList ++ rest) : c.url path = c.endpoint ++ path := by
  have hkept : path.toList.dropWhile (· == '/') = path.toList := by
    rw [h]
    rfl
  rw [url, hkept, String.ofList_toList]

namespace Kind.Nested

variable {σ : Type} {k : Kind σ} {identity : Fields} {path collection : String}

theorem path_eq (hk : k.Nested) {name : String} (hname : Keyed.get? "name" identity = some name)
    (hcollection : k.collectionPath.render identity = .ok collection)
    (hpath : k.selfPath.render identity = .ok path) : path = collection ++ "/" ++ name := by
  apply String.toList_injective
  rw [String.toList_append, String.toList_append, Template.render_eq hpath,
    Template.render_eq hcollection, hk.nested, hname, List.append_assoc]
  rfl

theorem rooted_collection (hk : k.Nested)
    (hcollection : k.collectionPath.render identity = .ok collection) :
    ∃ rest, collection.toList = "projects/".toList ++ rest := by
  obtain ⟨rest, hrest⟩ := hk.rooted
  have htext := Template.render_eq hcollection
  rw [hrest, List.flatMap_cons] at htext
  exact ⟨_, htext⟩

theorem url_eq (hk : k.Nested) (c : Context) {name : String}
    (hname : Keyed.get? "name" identity = some name)
    (hcollection : k.collectionPath.render identity = .ok collection)
    (hpath : k.selfPath.render identity = .ok path) :
    c.url path = c.url collection ++ "/" ++ name := by
  obtain ⟨rest, hrest⟩ := hk.rooted_collection hcollection
  have hobject : (collection ++ "/" ++ name).toList =
      "projects/".toList ++ (rest ++ "/".toList ++ name.toList) := by
    simp only [String.toList_append, hrest, List.append_assoc]
  rw [hk.path_eq hname hcollection hpath, c.url_of_rooted hobject, c.url_of_rooted hrest]
  simp only [String.append_assoc]

end Kind.Nested

theorem Address.segments_collectionPath : Address.kind.collectionPath.segments =
    [.literal "projects/".toList, .field "project".toList, .literal "/regions/".toList,
      .field "region".toList, .literal "/addresses".toList] := by
  decide +kernel

theorem Address.isEmpty_of_isName {name : String} (h : isName name.toList = true) :
    name.isEmpty = false := by
  cases hempty : name.isEmpty with
  | false => rfl
  | true =>
      rw [String.isEmpty_iff.1 hempty] at h
      cases h

theorem Address.kind_nested : Address.kind.Nested where
  rooted := ⟨_, segments_collectionPath⟩
  nested := by
    intro fields
    rw [segments_selfPath, segments_collectionPath]
    simp [Template.Segment.value]
  named := by
    intro a c identity p hidentity hexpand
    obtain ⟨_, subnetwork, region, _, _, hcarries⟩ := expand_eq_ok hexpand
    obtain ⟨hname, project, _, _, _, rfl⟩ := identity_eq_ok_iff.1 hidentity
    refine ⟨project, a.name, by rw [Keyed.get?_ofList]; rfl, get?_name hidentity, ?_⟩
    have hsent : p.get? "name" = (filled (some a.name)).map .str := hcarries "name"
    rw [hsent, filled_of_nonempty (isEmpty_of_isName hname)]
    rfl

theorem Route.segments_collectionPath : Route.kind.collectionPath.segments =
    [.literal "projects/".toList, .field "project".toList, .literal "/global/routes".toList] := by
  decide +kernel

theorem Route.kind_nested : Route.kind.Nested where
  rooted := ⟨_, segments_collectionPath⟩
  nested := by
    intro fields
    rw [segments_selfPath, segments_collectionPath]
    simp [Template.Segment.value]
  named := by
    intro r c identity p hidentity hexpand
    obtain ⟨_, t, _, _, _, hcarries⟩ := expand_eq_ok hexpand
    obtain ⟨hname, project, _, rfl⟩ := identity_eq_ok_iff.1 hidentity
    refine ⟨project, r.name, by rw [Keyed.get?_ofList]; rfl, get?_name hidentity, ?_⟩
    have hsent : p.get? "name" = (filled (some r.name)).map .str := hcarries "name"
    rw [hsent, filled_of_nonempty hname]
    rfl

theorem Family.kind_nested : (f : Family) → f.kind.Nested
  | .address => Address.kind_nested
  | .route => Route.kind_nested

end Reconcile
