import Reconcile.Proofs.Network.Regular
import Reconcile.Proofs.Wire.Put

namespace Reconcile.Route

variable {r : Route} {c : Context} {p : Payload} {identity : Fields}

structure Targets where
  network : Reference
  nextHopInstance : Option Reference
  nextHopGateway : Option Reference
  nextHopNetwork : Option Reference

variable {t : Targets}

structure RefersTo (r : Route) (c : Context) (identity : Fields) (t : Targets) : Prop where
  network : Reference.Linked (Reference.resolve "network" · "networks" .global
    (Keyed.get? "project" identity) none) (some r.network) (some t.network)
  nextHopInstance : Reference.Linked (Reference.resolve "next_hop_instance" · "instances" .zonal
    (Keyed.get? "project" identity) (r.nextHopInstanceZone <|> c.zone)) r.nextHopInstance
    t.nextHopInstance
  nextHopGateway : Reference.Linked (Reference.resolve "next_hop_gateway" · "gateways" .global
    (Keyed.get? "project" identity) none) r.nextHopGateway t.nextHopGateway
  nextHopNetwork : Reference.Linked (Reference.resolve "next_hop_network" · "networks" .global
    (Keyed.get? "project" identity) none) r.nextHopNetwork t.nextHopNetwork

def written (r : Route) (t : Targets) : List (String × Option Json) := [
  ("name", (filled (some r.name)).map .str),
  ("description", (filled r.description).map .str),
  ("destRange", (filled (some r.destRange)).map .str),
  ("network", (some t.network).map (.str ·.relativeLink)),
  ("nextHopIp", (filled r.nextHopIp).map .str),
  ("nextHopInstance", t.nextHopInstance.map (.str ·.relativeLink)),
  ("nextHopGateway", t.nextHopGateway.map (.str ·.relativeLink)),
  ("nextHopNetwork", t.nextHopNetwork.map (.str ·.relativeLink)),
  ("priority", r.priority.map .int),
  ("tags", ((some r.tags).filter (!·.isEmpty)).map tagsJson)]

theorem checkPriority_eq_ok_iff {priority : Option Int} :
    checkPriority priority = .ok () ↔ ∀ n ∈ priority, 0 ≤ n ∧ n ≤ 65535 := by
  cases priority with
  | none => simp [checkPriority]
  | some n =>
      simp only [checkPriority, Option.mem_def, Option.some.injEq, forall_eq']
      split
      · next hbounds => exact iff_of_true rfl hbounds
      · next hbounds => exact iff_of_false nofun hbounds

theorem validate_eq_ok_iff :
    r.validate = .ok () ↔ r.destRange.isEmpty = false ∧ r.network.isEmpty = false ∧
      (∀ n ∈ r.priority, 0 ≤ n ∧ n ≤ 65535) ∧ r.checkHops = .ok () := by
  rw [← checkPriority_eq_ok_iff]
  unfold validate
  cases hrange : r.destRange.isEmpty with
  | true => simp [throw, throwThe, MonadExceptOf.throw, bind, Except.bind]
  | false =>
      cases hnetwork : r.network.isEmpty with
      | true => simp [throw, throwThe, MonadExceptOf.throw, bind, Except.bind]
      | false =>
          simp only [Bool.false_eq_true, if_false, bind_eq_ok_iff, true_and]
          constructor
          · rintro ⟨⟨⟩, hpriority, hhops⟩
            exact ⟨hpriority, hhops⟩
          · rintro ⟨hpriority, hhops⟩
            exact ⟨(), hpriority, hhops⟩

def targets (r : Route) (c : Context) (identity : Fields) : Except Failure Targets := do
  let project := Keyed.get? "project" identity
  let network ← Reference.resolve "network" r.network "networks" .global project none
  let nextHopInstance ← r.nextHopInstance.mapM
    (Reference.resolve "next_hop_instance" · "instances" .zonal project
      (r.nextHopInstanceZone <|> c.zone))
  let nextHopGateway ← r.nextHopGateway.mapM
    (Reference.resolve "next_hop_gateway" · "gateways" .global project none)
  let nextHopNetwork ← r.nextHopNetwork.mapM
    (Reference.resolve "next_hop_network" · "networks" .global project none)
  pure { network, nextHopInstance, nextHopGateway, nextHopNetwork }

theorem targets_eq_ok_iff : r.targets c identity = .ok t ↔ r.RefersTo c identity t := by
  obtain ⟨network, hop, gateway, next⟩ := t
  simp only [targets, bind_eq_ok_iff]
  constructor
  · rintro ⟨_, hnetwork, _, hhop, _, hgateway, _, hnext, ⟨⟩⟩
    exact ⟨.some hnetwork, Reference.linked_iff.2 hhop, Reference.linked_iff.2 hgateway,
      Reference.linked_iff.2 hnext⟩
  · rintro ⟨hnetwork, hhop, hgateway, hnext⟩
    cases hnetwork with
    | some hnetwork =>
        exact ⟨network, hnetwork, hop, Reference.linked_iff.1 hhop, gateway,
          Reference.linked_iff.1 hgateway, next, Reference.linked_iff.1 hnext, rfl⟩

theorem expand_eq (r : Route) (c : Context) :
    r.expand c =
      (do
        r.validate
        let identity ← r.identity c
        let t ← r.targets c identity
        pure (.ofEntries (r.written t))) := by
  have husual : ∀ n, (Json.int n).isZero = true →
      (Json.int usualPriority).same (.int n) = false := by
    intro n hn
    have hzero : n = 0 := by simpa [Json.isZero] using hn
    subst hzero
    rfl
  have hpriority : ∀ p : Payload, p.putPlain "priority" r.priority (some usualPriority) .int =
      .ok (p.storing "priority" (r.priority.map .int)) := fun p => Payload.putUsual_eq rfl husual
  have hkept : (((some r.tags).filter (!·.isEmpty)).filter
      fun tags => !(tagsJson tags).isZero) = (some r.tags).filter (!·.isEmpty) := by
    cases r.tags <;> rfl
  unfold expand
  simp only [hpriority, Payload.putPlain_eq, Payload.putLink_eq, hkept, targets,
    ok_bind, map_bind_eq, bind_assoc, pure_bind, bind_map_left, Option.mapM_some]
  rfl

theorem carries_written (r : Route) (t : Targets) :
    (Payload.ofEntries (r.written t)).Carries (r.written t) :=
  Payload.carries_ofEntries (by simp [written])

theorem expand_eq_ok (h : r.expand c = .ok p) :
    ∃ identity t, r.validate = .ok () ∧ r.identity c = .ok identity ∧ r.RefersTo c identity t ∧
      p.Carries (r.written t) := by
  rw [expand_eq] at h
  obtain ⟨⟨⟩, hvalid, h⟩ := bind_eq_ok_iff.1 h
  obtain ⟨identity, hidentity, h⟩ := bind_eq_ok_iff.1 h
  obtain ⟨t, ht, ⟨⟩⟩ := bind_eq_ok_iff.1 h
  exact ⟨identity, t, hvalid, hidentity, targets_eq_ok_iff.1 ht, carries_written r t⟩

theorem exists_expand (hvalid : r.validate = .ok ()) (hidentity : r.identity c = .ok identity)
    (hrefers : r.RefersTo c identity t) : ∃ p, r.expand c = .ok p ∧ p.Carries (r.written t) := by
  refine ⟨.ofEntries (r.written t), ?_, carries_written r t⟩
  rw [expand_eq, hvalid, hidentity]
  simp only [ok_bind, targets_eq_ok_iff.2 hrefers]
  rfl

def stored (p : Payload) : Payload :=
  match p.get? "priority" with
  | some _ => p
  | none => ⟨Keyed.insert "priority" (.int usualPriority) p.members⟩

theorem get?_stored_of_ne {key : String} (h : key ≠ "priority") :
    (stored p).get? key = p.get? key := by
  unfold stored
  split
  · rfl
  · exact Keyed.get?_insert_of_ne _ _ h

theorem get?_stored_priority :
    (stored p).get? "priority" = some ((p.get? "priority").getD (.int usualPriority)) := by
  unfold stored
  split
  · next hsome => simp [hsome]
  · next hnone =>
      rw [hnone]
      exact Keyed.get?_insert_self "priority" _ p.members

def dueZone (r : Route) (t : Targets) : Option String :=
  r.nextHopInstanceZone <|> t.nextHopInstance.bind (·.location)

def linkZone (t : Targets) : Option String :=
  t.nextHopInstance.bind fun hop => zoneOfInstance? hop.relativeLink

def canonical (r : Route) (identity : Fields) (t : Targets) (zone : Option String) : Route where
  name := r.name
  destRange := r.destRange
  network := t.network.name
  description := filled r.description
  nextHopIp := filled r.nextHopIp
  nextHopInstance := t.nextHopInstance.map (·.name)
  nextHopInstanceZone := zone
  nextHopGateway := t.nextHopGateway.map (·.name)
  nextHopNetwork := t.nextHopNetwork.map (·.name)
  priority := some (r.priority.getD usualPriority)
  tags := tagSet r.tags
  project := Keyed.get? "project" identity
  selfLink := none

/-- The declared zone is that of the instance, and no slash in the link to the instance hides it. -/
def KeepsZone (r : Route) : Option Reference → Prop
  | none => r.nextHopInstanceZone = none
  | some hop => r.nextHopInstanceZone.all (hop.location = some ·) ∧ IsSegment hop.project ∧
      ∀ zone ∈ hop.location, IsSegment zone

theorem get?_name (h : r.identity c = .ok identity) :
    Keyed.get? "name" identity = some r.name := by
  obtain ⟨project, _, rfl⟩ := identity_eq_ok h
  rw [Keyed.get?_ofList]
  rfl

theorem priority_of_stored (h : ∀ n ∈ r.priority, 0 ≤ n ∧ n ≤ 65535)
    (hcarried : p.get? "priority" = r.priority.map .int) :
    Wire.int? (stored p).json "priority" = some (r.priority.getD usualPriority) := by
  have hget : (stored p).json.get? "priority" = some (.int (r.priority.getD usualPriority)) := by
    refine get?_stored_priority.trans ?_
    rw [hcarried]
    cases r.priority <;> rfl
  have hmost : r.priority.getD usualPriority ≤ Decode.maxSigned := by
    cases hpriority : r.priority with
    | none => decide
    | some n =>
        have hn := h n hpriority
        simp only [Option.getD_some, Decode.maxSigned]
        omega
  simp only [Wire.int?, hget, hmost, if_true]

theorem strings_of_tags {remote : Json} {tags : List String}
    (h : remote.get? "tags" = ((some tags).filter (!·.isEmpty)).map tagsJson) :
    Wire.strings remote "tags" = tags := by
  have hread : (tags.map Json.str).filterMap Json.asStr? = tags := by
    simp [List.filterMap_map, Function.comp_def, Json.asStr?]
  rw [Wire.strings, h]
  cases tags with
  | nil => rfl
  | cons tag rest => exact hread

theorem flatten_of_written (remote : Json) (hranged : r.destRange.isEmpty = false)
    (hidentity : r.identity c = .ok identity) (hrefers : r.RefersTo c identity t)
    (hget : ∀ {key}, key ≠ "priority" → remote.get? key = (Keyed.get? key (r.written t)).join) :
    flatten remote identity =
      { r.canonical identity t (linkZone t) with priority := Wire.int? remote "priority" } := by
  have hname : Wire.string? remote "name" = filled (some r.name) :=
    Wire.string?_of_text (hget (by decide))
  have hrange : Wire.string? remote "destRange" = some r.destRange :=
    Wire.string?_of_some hranged (hget (by decide))
  have hnetwork : (Wire.string? remote "network").map SelfLink.name =
      (some t.network).map (·.name) :=
    Wire.name_of_link hrefers.network (hget (by decide))
  have hdescription : Wire.string? remote "description" = filled r.description :=
    Wire.string?_of_text (hget (by decide))
  have hip : Wire.string? remote "nextHopIp" = filled r.nextHopIp :=
    Wire.string?_of_text (hget (by decide))
  have hlink : Wire.string? remote "nextHopInstance" =
      t.nextHopInstance.map (·.relativeLink) :=
    Wire.string?_of_link (hget (by decide))
  have hhop : (Wire.string? remote "nextHopInstance").map SelfLink.name =
      t.nextHopInstance.map (·.name) :=
    Wire.name_of_link hrefers.nextHopInstance (hget (by decide))
  have hgateway : (Wire.string? remote "nextHopGateway").map SelfLink.name =
      t.nextHopGateway.map (·.name) :=
    Wire.name_of_link hrefers.nextHopGateway (hget (by decide))
  have hnext : (Wire.string? remote "nextHopNetwork").map SelfLink.name =
      t.nextHopNetwork.map (·.name) :=
    Wire.name_of_link hrefers.nextHopNetwork (hget (by decide))
  have htags : Wire.strings remote "tags" = r.tags := strings_of_tags (hget (by decide))
  have hself : Wire.string? remote "selfLink" = none := Wire.string?_of_none (hget (by decide))
  have hzone : (Wire.string? remote "nextHopInstance").bind zoneOfInstance? = linkZone t := by
    rw [hlink, Option.bind_map]
    rfl
  simp only [flatten, canonical, hname, get?_name hidentity, filled_or_self, hrange, hnetwork,
    hdescription, hip, hhop, hgateway, hnext, htags, hself, hzone]
  rfl

theorem flatten_stored (hvalid : r.validate = .ok ()) (hidentity : r.identity c = .ok identity)
    (hrefers : r.RefersTo c identity t) (hcarries : p.Carries (r.written t)) :
    flatten (stored p).json identity = r.canonical identity t (linkZone t) := by
  obtain ⟨hranged, _, hbounded, _⟩ := validate_eq_ok_iff.1 hvalid
  rw [flatten_of_written (stored p).json hranged hidentity hrefers
      fun hkey => (get?_stored_of_ne hkey).trans (hcarries _),
    priority_of_stored hbounded (hcarries "priority")]
  rfl

section Zone

variable {hop : Reference} {value zone : String} {project fallback : Option String}

theorem pieces_isSegment_iff
    (h : Reference.resolve "next_hop_instance" value "instances" .zonal project fallback = .ok hop)
    (hzone : hop.location = some zone) :
    (∀ piece ∈ hop.pieces, IsSegment piece) ↔ IsSegment hop.project ∧ IsSegment zone := by
  obtain ⟨_, _, _, _, _, _, _, hcollection, _, hscope⟩ := Reference.resolve_eq_ok h
  have hname := Reference.isSegment_of_resolve h
  have hpieces : hop.pieces =
      ["projects", hop.project, "zones", zone, "instances", hop.name] := by
    simp only [Reference.pieces, hscope, hzone, hcollection]
    rfl
  have hfixed : IsSegment "projects" ∧ IsSegment "zones" ∧ IsSegment "instances" := by decide
  simp [hpieces, hfixed, hname]

theorem zoneOfInstance?_relativeLink
    (h : Reference.resolve "next_hop_instance" value "instances" .zonal project fallback = .ok hop)
    (hzone : hop.location = some zone) :
    zoneOfInstance? hop.relativeLink =
      if IsSegment hop.project ∧ IsSegment zone then some zone else none := by
  obtain ⟨_, _, _, _, _, _, _, hcollection, _, hscope⟩ := Reference.resolve_eq_ok h
  have hlocated := Reference.located_of_resolve h
  split
  · next hsegments =>
      have hagain : Reference.resolve "next_hop_instance" hop.relativeLink hop.collection hop.scope
          none none = .ok hop :=
        Reference.resolve_relativeLink hlocated ((pieces_isSegment_iff h hzone).2 hsegments)
      rw [hcollection, hscope] at hagain
      rw [zoneOfInstance?, hagain]
      exact hzone
  · next hslashed =>
      unfold zoneOfInstance?
      split
      · next again hagain =>
          rw [← hcollection, ← hscope] at hagain
          have hsegments := Reference.isSegment_of_resolve_relativeLink hlocated hagain
          exact absurd ((pieces_isSegment_iff h hzone).1 hsegments) hslashed
      · rfl

end Zone

theorem keepsZone_iff (hrefers : r.RefersTo c identity t) :
    linkZone t = r.dueZone t ↔ r.KeepsZone t.nextHopInstance := by
  have hlinked := hrefers.nextHopInstance
  unfold linkZone dueZone
  cases hhop : t.nextHopInstance with
  | none => cases hzone : r.nextHopInstanceZone <;> simp [KeepsZone, hzone]
  | some hop =>
      rw [hhop] at hlinked
      generalize r.nextHopInstance = declared at hlinked
      cases hlinked with
      | some hresolve =>
          obtain ⟨_, _, _, _, _, _, _, _, _, hscope⟩ := Reference.resolve_eq_ok hresolve
          have hlocated := Reference.located_of_resolve hresolve
          obtain ⟨zone, hzone⟩ : ∃ zone, hop.location = some zone :=
            Option.isSome_iff_exists.1 (hlocated.2 (.inr hscope))
          have hback := zoneOfInstance?_relativeLink hresolve hzone
          by_cases hsegments : IsSegment hop.project ∧ IsSegment zone
          · rw [if_pos hsegments] at hback
            cases hdeclared : r.nextHopInstanceZone with
            | none => simp [KeepsZone, hzone, hback, hsegments, hdeclared]
            | some declared => simp [KeepsZone, hzone, hback, hsegments, hdeclared]
          · rw [if_neg hsegments] at hback
            cases hdeclared : r.nextHopInstanceZone with
            | none => simpa [KeepsZone, hzone, hback, hdeclared] using hsegments
            | some declared => simpa [KeepsZone, hzone, hback, hdeclared] using fun _ => hsegments

/-- A route comes back in canonical form exactly if it keeps the declared zone; apart from the zone
it always does. -/
theorem round_trip_iff (h : r.expand c = .ok p) :
    ∃ identity t, r.identity c = .ok identity ∧ r.RefersTo c identity t ∧
      flatten (stored p).json identity = r.canonical identity t (linkZone t) ∧
      (flatten (stored p).json identity = r.canonical identity t (r.dueZone t) ↔
        r.KeepsZone t.nextHopInstance) := by
  obtain ⟨identity, t, hvalid, hidentity, hrefers, hcarries⟩ := expand_eq_ok h
  have hflatten := flatten_stored hvalid hidentity hrefers hcarries
  refine ⟨identity, t, hidentity, hrefers, hflatten, ?_⟩
  rw [hflatten, ← keepsZone_iff hrefers]
  constructor
  · exact congrArg Route.nextHopInstanceZone
  · intro hzone
    rw [hzone]

namespace Elsewhere

def context : Context := .ofDefaults ⟨some "p1", none, none⟩

def through (link : String) : Route :=
  { blank with
    name := "to-nat", destRange := "0.0.0.0/0", network := "default"
    nextHopInstance := some link, nextHopInstanceZone := some "us-central1-f" }

def payload (zone : String) : Payload :=
  ⟨[("destRange", .str "0.0.0.0/0"), ("name", .str "to-nat"),
    ("network", .str "projects/p1/global/networks/default"),
    ("nextHopInstance", .str ("projects/p1/zones/" ++ zone ++ "/instances/nat"))]⟩

theorem bare_instance_round_trip :
    (through "nat").expand context = .ok (payload "us-central1-f") ∧
    ∃ identity t, (through "nat").identity context = .ok identity ∧
      (through "nat").RefersTo context identity t ∧
      flatten (stored (payload "us-central1-f")).json identity =
        (through "nat").canonical identity t (some "us-central1-f") := by
  have hexpand : (through "nat").expand context = .ok (payload "us-central1-f") := by rfl
  obtain ⟨identity, t, hidentity, hrefers, _, hiff⟩ := round_trip_iff hexpand
  refine ⟨hexpand, identity, t, hidentity, hrefers, hiff.2 ?_⟩
  cases hidentity
  generalize ht : t.nextHopInstance = target
  have hlinked := hrefers.nextHopInstance
  rw [ht] at hlinked
  cases hlinked with
  | some hresolve =>
      cases hresolve
      refine ⟨by decide, by decide, ?_⟩
      rintro zone ⟨⟩
      decide

/-- The zone in the path of the instance replaces the declared one. -/
theorem declared_zone_replaced :
    (through "zones/us-central1-b/instances/nat").expand context =
      .ok (payload "us-central1-b") ∧
    ∃ identity, (through "zones/us-central1-b/instances/nat").identity context = .ok identity ∧
      (flatten (stored (payload "us-central1-b")).json identity).nextHopInstanceZone =
        some "us-central1-b" ∧
      ∀ t, (through "zones/us-central1-b/instances/nat").dueZone t = some "us-central1-f" := by
  exact ⟨by rfl, _, rfl, by rfl, fun _ => rfl⟩

end Elsewhere

end Reconcile.Route
