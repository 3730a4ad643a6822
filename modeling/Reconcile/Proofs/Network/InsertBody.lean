import Reconcile.Proofs.Json.Record
import Reconcile.Proofs.Network.RouteRoundTrip

namespace Reconcile

theorem Reference.Linked.isSome_eq {field collection : String} {scope : Scope}
    {project location declared : Option String} {linked : Option Reference}
    (h : Linked (resolve field · collection scope project location) declared linked) :
    linked.isSome = (filled declared).isSome := by
  cases h with
  | none => rfl
  | some hr =>
      rw [filled_of_nonempty (isEmpty_of_resolve hr)]
      rfl

namespace Route

variable {r : Route} {c : Context} {p : Payload} {identity : Fields} {t : Targets}
  {tag : String} {tags declared : List String} {e : Failure}

def hops (r : Route) : List (String × Option String) := [
  ("nextHopIp", r.nextHopIp), ("nextHopInstance", r.nextHopInstance),
  ("nextHopGateway", r.nextHopGateway), ("nextHopNetwork", r.nextHopNetwork)]

def filledHops (r : Route) : List (String × Option String) :=
  r.hops.filter fun hop => (filled hop.2).isSome

def requiredKeys : List String := ["name", "destRange", "network"]

def optionalKeys : List String := ["description", "priority", "tags"]

/-- The body has what a route needs, the one next hop that is not empty, the priority and the tags
that are declared, and a description if it is not empty. -/
structure Insertable (r : Route) (declared : List String) (p : Payload) : Prop where
  required : ∀ key ∈ requiredKeys, ∃ text, p.get? key = some (.str text) ∧ text.isEmpty = false
  hop : ∃! hop, hop ∈ r.hops ∧ (p.get? hop.1).isSome
  hop_iff : ∀ hop ∈ r.hops, (p.get? hop.1).isSome ↔ (filled hop.2).isSome
  priority : p.get? "priority" = r.priority.map .int
  inRange : ∀ n ∈ r.priority, 0 ≤ n ∧ n ≤ 65535
  tags : p.get? "tags" = none ↔ declared = []
  tagged : ∀ sent, p.get? "tags" = some sent → ∃ tags : List String, sent = .arr (tags.map .str) ∧
    tags.Pairwise (· < ·) ∧ ∀ tag, tag ∈ tags ↔ tag ∈ declared
  description : p.get? "description" = (filled r.description).map .str
  keys : ∀ member ∈ p.members, member.1 ∈ requiredKeys ++ r.hops.map (·.1) ++ optionalKeys

theorem pairwise_insertTag (h : tags.Pairwise (· < ·)) : (insertTag tag tags).Pairwise (· < ·) := by
  induction tags with
  | nil => exact List.pairwise_singleton _ _
  | cons first rest ih =>
      obtain ⟨hfirst, hrest⟩ := List.pairwise_cons.1 h
      unfold insertTag
      split
      · exact h
      · next hne =>
          split
          · next hlt =>
              refine List.pairwise_cons.2 ⟨?_, h⟩
              intro t ht
              rcases List.mem_cons.1 ht with rfl | ht
              · exact hlt
              · exact String.lt_trans hlt (hfirst t ht)
          · next hle =>
              refine List.pairwise_cons.2 ⟨?_, ih hrest⟩
              intro t ht
              rcases mem_insertTag.1 ht with rfl | ht
              · exact Keyed.lt_of_not_lt hne hle
              · exact hfirst t ht

theorem pairwise_tagSet (tags : List String) : (tagSet tags).Pairwise (· < ·) := by
  induction tags with
  | nil => exact .nil
  | cons tag rest ih => exact pairwise_insertTag ih

theorem tagSet_eq_nil_iff : tagSet declared = [] ↔ declared = [] := by
  simp only [List.eq_nil_iff_forall_not_mem, mem_tagSet]

def readTags (j : Json) : Except Decode.Error (List String) :=
  (Decode.list Decode.string j).map tagSet

theorem owns_tags : Decode.Owns fields "tags" 10 (·.tags) readTags where
  owner := by
    have hread : ∀ j (r : Route),
        fields[10].read j r = (readTags j).map fun tags => { r with tags := tags } := by
      intro j r
      show (Decode.list Decode.string j).map _ = _
      cases h : Decode.list Decode.string j <;> simp [readTags, h, Except.map]
    exact ⟨fields[10], rfl, rfl, .of_map hread fun _ _ => rfl⟩
  others := by
    simp only [fields, List.eraseIdx_cons_succ, List.eraseIdx_cons_zero, List.forall_mem_cons]
    refine ⟨?_, ?_, ?_, ?_, ?_, ?_, ?_, ?_, ?_, ?_, ?_, ?_, nofun⟩ <;>
      exact ⟨by decide, .of_map (fun _ _ => rfl) fun _ _ => rfl⟩

theorem length_nextHops : r.nextHops.length = r.filledHops.length := by
  simp only [nextHops, filledHops, hops, List.filterMap_cons, List.filter_cons, ← isSome_filled]
  cases (filled r.nextHopIp).isSome <;> cases (filled r.nextHopInstance).isSome <;>
    cases (filled r.nextHopGateway).isSome <;> cases (filled r.nextHopNetwork).isSome <;> rfl

theorem checkHops_eq_ok_iff : r.checkHops = .ok () ↔ r.filledHops.length = 1 := by
  rw [← length_nextHops, checkHops]
  split
  · next hone => simp [hone]
  · next hnone => simp [hnone]
  · next fields hone hnone =>
      refine iff_of_false nofun fun hlength => ?_
      obtain ⟨field, hfield⟩ := List.length_eq_one_iff.1 hlength
      exact hone field hfield

theorem existsUnique_filledHop (h : r.filledHops.length = 1) :
    ∃! hop, hop ∈ r.hops ∧ (filled hop.2).isSome := by
  obtain ⟨hop, hhop⟩ := List.length_eq_one_iff.1 h
  have hmem : ∀ other, other ∈ r.hops ∧ (filled other.2).isSome ↔ other = hop := by
    intro other
    have hother : other ∈ r.filledHops ↔ other = hop := by rw [hhop, List.mem_singleton]
    rwa [filledHops, List.mem_filter] at hother
  exact ⟨hop, (hmem hop).2 rfl, fun other hother => (hmem other).1 hother⟩

theorem isSome_hop (hrefers : r.RefersTo c identity t) (hcarries : p.Carries (r.written t)) :
    ∀ hop ∈ r.hops, (p.get? hop.1).isSome = (filled hop.2).isSome := by
  have hip : p.get? "nextHopIp" = (filled r.nextHopIp).map .str := hcarries "nextHopIp"
  have hinstance : p.get? "nextHopInstance" = t.nextHopInstance.map (.str ·.relativeLink) :=
    hcarries "nextHopInstance"
  have hgateway : p.get? "nextHopGateway" = t.nextHopGateway.map (.str ·.relativeLink) :=
    hcarries "nextHopGateway"
  have hnetwork : p.get? "nextHopNetwork" = t.nextHopNetwork.map (.str ·.relativeLink) :=
    hcarries "nextHopNetwork"
  simp only [hops, List.forall_mem_cons, hip, hinstance, hgateway, hnetwork, Option.isSome_map,
    hrefers.nextHopInstance.isSome_eq, hrefers.nextHopGateway.isSome_eq,
    hrefers.nextHopNetwork.isSome_eq, List.not_mem_nil, false_imp_iff, implies_true, and_self]

theorem mem_keys (hcarries : p.Carries (r.written t)) :
    ∀ member ∈ p.members, member.1 ∈ requiredKeys ++ r.hops.map (·.1) ++ optionalKeys := by
  intro member hmember
  apply Classical.byContradiction
  intro hother
  have hnone : Keyed.get? member.1 (r.written t) = none := by
    rw [Keyed.get?_eq_none_iff]
    intro hkey
    apply hother
    simp only [written, List.map_cons, List.map_nil, List.mem_cons, List.not_mem_nil, or_false]
      at hkey
    rcases hkey with h | h | h | h | h | h | h | h | h | h <;>
      simp [h, requiredKeys, optionalKeys, hops]
  have hget : p.get? member.1 = none := by rw [hcarries, hnone]; rfl
  exact Keyed.get?_eq_none_iff.1 hget (List.mem_map_of_mem hmember)

theorem tags_of_carries (hset : r.tags = tagSet declared) (hcarries : p.Carries (r.written t)) :
    p.get? "tags" =
      if declared = [] then none else some (.arr ((tagSet declared).map .str)) := by
  have htags : p.get? "tags" = ((some r.tags).filter (!·.isEmpty)).map tagsJson := hcarries "tags"
  rw [htags, hset]
  split
  · next hnil => rw [hnil]; rfl
  · next hsome =>
      rw [← tagSet_eq_nil_iff] at hsome
      simp [Option.filter, hsome, tagsJson]

theorem insertable_of_carries (hset : r.tags = tagSet declared) (hvalid : r.validate = .ok ())
    (hidentity : r.identity c = .ok identity) (hrefers : r.RefersTo c identity t)
    (hcarries : p.Carries (r.written t)) : r.Insertable declared p := by
  obtain ⟨hrange, _, hbounded, hhops⟩ := validate_eq_ok_iff.1 hvalid
  have hpresent := isSome_hop hrefers hcarries
  have htags := tags_of_carries hset hcarries
  refine
    { required := ?_, hop := ?_, hop_iff := ?_, priority := hcarries "priority"
      inRange := hbounded, tags := ?_, tagged := ?_, description := hcarries "description"
      keys := mem_keys hcarries }
  · have hname := (identity_eq_ok_iff.1 hidentity).1
    simp only [requiredKeys, List.forall_mem_cons]
    refine ⟨⟨r.name, ?_, hname⟩, ⟨r.destRange, ?_, hrange⟩,
      ⟨t.network.relativeLink, hcarries "network", t.network.isEmpty_relativeLink⟩, nofun⟩
    · refine (hcarries "name").trans ?_
      show (filled (some r.name)).map Json.str = _
      rw [filled_of_nonempty hname]
      rfl
    · refine (hcarries "destRange").trans ?_
      show (filled (some r.destRange)).map Json.str = _
      rw [filled_of_nonempty hrange]
      rfl
  · obtain ⟨hop, ⟨hmem, hfilled⟩, hunique⟩ :=
      existsUnique_filledHop (checkHops_eq_ok_iff.1 hhops)
    refine ⟨hop, ⟨hmem, (hpresent hop hmem).trans hfilled⟩, ?_⟩
    rintro other ⟨hother, hsome⟩
    exact hunique other ⟨hother, (hpresent other hother).symm.trans hsome⟩
  · intro hop hhop
    rw [hpresent hop hhop]
  · rw [htags]
    split
    · next hnil => simp [hnil]
    · next hsome => simp [hsome]
  · intro sent hsent
    rw [htags] at hsent
    split at hsent
    · cases hsent
    · cases hsent
      exact ⟨tagSet declared, rfl, pairwise_tagSet declared, fun _ => mem_tagSet⟩

theorem checkPriority_eq_error {priority : Option Int} (h : checkPriority priority = .error e) :
    ∃ field flaw, e = .invalid field flaw := by
  unfold checkPriority at h
  split at h
  · split at h
    · cases h
    · cases h
      exact ⟨_, _, rfl⟩
  · cases h

theorem checkHops_eq_error (h : r.checkHops = .error e) :
    ∃ field flaw, e = .invalid field flaw := by
  unfold checkHops at h
  split at h
  · cases h
  · cases h
    exact ⟨_, _, rfl⟩
  · cases h
    exact ⟨_, _, rfl⟩

theorem validate_eq_error (h : r.validate = .error e) : ∃ field flaw, e = .invalid field flaw := by
  unfold validate at h
  dsimp only at h
  split at h
  · cases h
    exact ⟨_, _, rfl⟩
  · split at h
    · cases h
      exact ⟨_, _, rfl⟩
    · rcases bind_eq_error_iff.1 h with hpriority | ⟨_, _, hhops⟩
      · exact checkPriority_eq_error hpriority
      · exact checkHops_eq_error hhops

theorem expand_of_validate_error (h : r.validate = .error e) (c : Context) :
    r.expand c = .error e := by
  rw [expand, h]
  rfl

/-- A body that a route is expanded to can be inserted; and a route with no next hop that is not
empty, or with several, is invalid. -/
theorem expand_insertable (c : Context) (hset : r.tags = tagSet declared) :
    (∀ p, r.expand c = .ok p → r.Insertable declared p) ∧
      (r.filledHops.length ≠ 1 → ∃ field flaw, r.expand c = .error (.invalid field flaw)) := by
  constructor
  · intro p hexpand
    obtain ⟨identity, t, hvalid, hidentity, hrefers, hcarries⟩ := expand_eq_ok hexpand
    exact insertable_of_carries hset hvalid hidentity hrefers hcarries
  · intro hcount
    cases hvalid : r.validate with
    | ok _ => exact absurd (checkHops_eq_ok_iff.1 (validate_eq_ok_iff.1 hvalid).2.2.2) hcount
    | error e =>
        obtain ⟨field, flaw, rfl⟩ := validate_eq_error hvalid
        exact ⟨field, flaw, expand_of_validate_error hvalid c⟩

namespace Tagged

def context : Context := .ofDefaults ⟨some "p1", none, none⟩

def route : Route :=
  { blank with
    name := "to-nat", destRange := "0.0.0.0/0", network := "default", description := some ""
    nextHopIp := some "10.128.0.2", nextHopGateway := none, priority := some 0
    tags := tagSet ["web", "db", "web"] }

def payload : Payload :=
  ⟨[("destRange", .str "0.0.0.0/0"), ("name", .str "to-nat"),
    ("network", .str "projects/p1/global/networks/default"), ("nextHopIp", .str "10.128.0.2"),
    ("priority", .int 0), ("tags", .arr [.str "db", .str "web"])]⟩

theorem tagged_insertable :
    route.expand context = .ok payload ∧ route.Insertable ["web", "db", "web"] payload := by
  have hexpand : route.expand context = .ok payload := by rfl
  exact ⟨hexpand, (expand_insertable context rfl).1 payload hexpand⟩

end Tagged

end Route

end Reconcile
