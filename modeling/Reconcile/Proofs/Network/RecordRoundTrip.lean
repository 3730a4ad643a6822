import Reconcile.Proofs.Json.Written
import Reconcile.Proofs.Network.InsertBody

namespace Reconcile

open Reconcile.Field

namespace Address

theorem codec : Decode.Codec fields blank where
  names := by decide
  apart := by
    simp only [fields, List.pairwise_cons, List.forall_mem_cons, List.not_mem_nil, false_implies,
      implies_true, and_true, List.Pairwise.nil, Apart]
    repeat' apply And.intro
    all_goals exact .of_map (fun _ _ => rfl) fun _ _ => rfl
  absent := by
    simp only [fields, List.forall_mem_cons, List.not_mem_nil, false_implies, implies_true,
      and_true]
    exact ⟨fun s => text_absent s _, fun _ _ => rfl, fun _ _ => rfl, fun _ _ => rfl,
      fun _ _ => rfl, fun _ _ => rfl, fun _ _ => rfl, fun _ _ => rfl, fun _ _ => rfl,
      fun _ _ => rfl, fun _ _ => rfl⟩
  ext := by
    intro a b h
    simp only [fields, List.forall_mem_cons, List.not_mem_nil, false_implies, implies_true,
      and_true] at h
    obtain ⟨hname, haddress, htype, hdescription, htier, hregion, hsubnetwork, hproject, hcreation,
      husers, hlink⟩ := h
    cases a
    cases b
    rw [Address.mk.injEq]
    exact ⟨text_write_inj hname, optionalText_write_inj haddress, optionalText_write_inj htype,
      optionalText_write_inj hdescription, optionalText_write_inj htier,
      optionalText_write_inj hregion, optionalText_write_inj hsubnetwork,
      optionalText_write_inj hproject, optionalText_write_inj hcreation, texts_write_inj husers,
      optionalText_write_inj hlink⟩

theorem fields_readBack (a : Address) : ∀ field ∈ fields, field.ReadsBack a := by
  simp only [fields, List.forall_mem_cons, List.not_mem_nil, false_implies, implies_true, and_true]
  exact ⟨text_readsBack fun _ _ => rfl, optionalText_readsBack fun _ _ => rfl,
    optionalText_readsBack fun _ _ => rfl, optionalText_readsBack fun _ _ => rfl,
    optionalText_readsBack fun _ _ => rfl, optionalText_readsBack fun _ _ => rfl,
    optionalText_readsBack fun _ _ => rfl, optionalText_readsBack fun _ _ => rfl,
    optionalText_readsBack fun _ _ => rfl, texts_readsBack fun _ => rfl,
    optionalText_readsBack fun _ _ => rfl⟩

def members (r : Record Address) : List (String × Option Json) := [
  ("id", r.id.map .str),
  ("name", some (.str r.state.name)),
  ("address", r.state.address.map .str),
  ("address_type", r.state.addressType.map .str),
  ("description", r.state.description.map .str),
  ("network_tier", r.state.networkTier.map .str),
  ("region", r.state.region.map .str),
  ("subnetwork", r.state.subnetwork.map .str),
  ("project", r.state.project.map .str),
  ("creation_timestamp", r.state.creationTimestamp.map .str),
  ("users", if r.state.users.isEmpty then none else some (.arr (r.state.users.map .str))),
  ("self_link", r.state.selfLink.map .str)]

end Address

namespace Route

variable {r : Route}

structure Representable (r : Route) : Prop where
  priority : ∀ n ∈ r.priority, Decode.minSigned ≤ n ∧ n ≤ Decode.maxSigned
  tags : r.tags.Pairwise (· < ·)

theorem codec : Decode.Codec fields blank where
  names := by decide
  apart := by
    simp only [fields, List.pairwise_cons, List.forall_mem_cons, List.not_mem_nil, false_implies,
      implies_true, and_true, List.Pairwise.nil, Apart]
    repeat' apply And.intro
    all_goals exact .of_map (fun _ _ => rfl) fun _ _ => rfl
  absent := by
    simp only [fields, List.forall_mem_cons, List.not_mem_nil, false_implies, implies_true,
      and_true]
    exact ⟨fun s => text_absent s _, fun s => text_absent s _,
      fun s => text_absent s _, fun _ _ => rfl, fun _ _ => rfl, fun _ _ => rfl, fun _ _ => rfl,
      fun _ _ => rfl, fun _ _ => rfl, fun _ _ => rfl, fun _ _ => rfl, fun _ _ => rfl,
      fun _ _ => rfl⟩
  ext := by
    intro a b h
    simp only [fields, List.forall_mem_cons, List.not_mem_nil, false_implies, implies_true,
      and_true] at h
    obtain ⟨hname, hrange, hnetwork, hdescription, hip, hinstance, hzone, hgateway, hhop, hpriority,
      htags, hproject, hlink⟩ := h
    cases a
    cases b
    rw [Route.mk.injEq]
    exact ⟨text_write_inj hname, text_write_inj hrange, text_write_inj hnetwork,
      optionalText_write_inj hdescription, optionalText_write_inj hip,
      optionalText_write_inj hinstance, optionalText_write_inj hzone,
      optionalText_write_inj hgateway, optionalText_write_inj hhop,
      optionalSigned_write_inj hpriority, texts_write_inj htags, optionalText_write_inj hproject,
      optionalText_write_inj hlink⟩

theorem tagSet_eq_self {tags : List String} (h : tags.Pairwise (· < ·)) : tagSet tags = tags := by
  induction tags with
  | nil => rfl
  | cons tag rest ih =>
      obtain ⟨hfirst, hrest⟩ := List.pairwise_cons.1 h
      have hset : tagSet (tag :: rest) = insertTag tag (tagSet rest) := rfl
      rw [hset, ih hrest]
      cases rest with
      | nil => rfl
      | cons next rest =>
          have hlt : tag < next := hfirst next List.mem_cons_self
          have hne : tag ≠ next := fun heq => String.lt_irrefl next (heq ▸ hlt)
          rw [insertTag, if_neg hne, if_pos hlt]

theorem fields_readBack (h : r.Representable) : ∀ field ∈ fields, field.ReadsBack r := by
  simp only [fields, List.forall_mem_cons, List.not_mem_nil, false_implies, implies_true, and_true]
  exact ⟨text_readsBack fun _ _ => rfl, text_readsBack fun _ _ => rfl,
    text_readsBack fun _ _ => rfl, optionalText_readsBack fun _ _ => rfl,
    optionalText_readsBack fun _ _ => rfl, optionalText_readsBack fun _ _ => rfl,
    optionalText_readsBack fun _ _ => rfl, optionalText_readsBack fun _ _ => rfl,
    optionalText_readsBack fun _ _ => rfl, optionalSigned_readsBack (fun _ _ => rfl) h.priority,
    texts_readsBack fun _ => tagSet_eq_self h.tags, optionalText_readsBack fun _ _ => rfl,
    optionalText_readsBack fun _ _ => rfl⟩

theorem owns_priority :
    Decode.Owns fields "priority" 9 (·.priority) (Decode.optional Decode.signed) where
  owner := ⟨fields[9], rfl, rfl, .of_map (fun _ _ => rfl) fun _ _ => rfl⟩
  others := by
    simp only [fields, List.eraseIdx_cons_succ, List.eraseIdx_cons_zero, List.forall_mem_cons]
    refine ⟨?_, ?_, ?_, ?_, ?_, ?_, ?_, ?_, ?_, ?_, ?_, ?_, List.forall_mem_nil _⟩ <;>
      exact ⟨by decide, .of_map (fun _ _ => rfl) fun _ _ => rfl⟩

theorem representable_of_members {entries : List (String × Json)}
    (h : Decode.members fields blank entries = .ok r) : r.Representable := by
  constructor
  · have hread := owns_priority.members h
    intro n hn
    rw [Option.mem_def.1 hn] at hread
    cases hget : Keyed.get? "priority" entries.reverse with
    | none =>
        rw [hget] at hread
        cases hread
    | some j =>
        rw [hget] at hread
        exact Decode.range_of_optional_signed hread
  · have hread := owns_tags.members h
    cases hget : Keyed.get? "tags" entries.reverse with
    | none =>
        rw [hget] at hread
        rw [← Except.ok.inj hread]
        exact .nil
    | some j =>
        rw [hget] at hread
        obtain ⟨declared, _, hset⟩ := map_eq_ok_iff.1 hread
        rw [← hset]
        exact pairwise_tagSet declared

def members (r : Record Route) : List (String × Option Json) := [
  ("id", r.id.map .str),
  ("name", some (.str r.state.name)),
  ("dest_range", some (.str r.state.destRange)),
  ("network", some (.str r.state.network)),
  ("description", r.state.description.map .str),
  ("next_hop_ip", r.state.nextHopIp.map .str),
  ("next_hop_instance", r.state.nextHopInstance.map .str),
  ("next_hop_instance_zone", r.state.nextHopInstanceZone.map .str),
  ("next_hop_gateway", r.state.nextHopGateway.map .str),
  ("next_hop_network", r.state.nextHopNetwork.map .str),
  ("priority", r.state.priority.map .int),
  ("tags", if r.state.tags.isEmpty then none else some (tagsJson r.state.tags)),
  ("project", r.state.project.map .str),
  ("self_link", r.state.selfLink.map .str)]

end Route

namespace Family

def Representable : (f : Family) → f.State → Prop
  | .address, _ => True
  | .route, r => r.Representable

def members : (f : Family) → Record f.State → List (String × Option Json)
  | .address, r => Address.members r
  | .route, r => Route.members r

theorem kind_codec : (f : Family) → Decode.Codec f.kind.fields f.kind.initial
  | .address => Address.codec
  | .route => Route.codec

theorem fields_readBack : (f : Family) → (state : f.State) → f.Representable state →
    ∀ field ∈ f.kind.fields, field.ReadsBack state
  | .address, a, _ => Address.fields_readBack a
  | .route, _, h => Route.fields_readBack h

theorem id_not_mem_names : (f : Family) → "id" ∉ f.kind.fields.map (·.name)
  | .address => by decide
  | .route => by decide

theorem written_eq : (f : Family) → (r : Record f.State) → r.written f.kind = f.members r
  | .address, _ => rfl
  | .route, _ => rfl

theorem representable_of_decode {j : Json} : (f : Family) → {r : Record f.State} →
    Record.decode f.kind j = .ok r → f.Representable r.state
  | .address, _, _ => trivial
  | .route, r, h => by
      cases j with
      | obj entries =>
          obtain ⟨id, _, h⟩ := bind_eq_ok_iff.1 h
          obtain ⟨state, hstate, h⟩ := bind_eq_ok_iff.1 h
          cases h
          exact Route.representable_of_members hstate
      | _ => cases h

end Family

/-- An encoded record is decoded as it was. What was decoded from any object is such a record: its
encoding has the id if it is present, each optional field that is set, and tags only as an ascending
list without repetition. -/
theorem record_round_trip (f : Family) :
    (∀ r : Record f.State, f.Representable r.state →
      Record.decode f.kind (r.encode f.kind) = .ok r) ∧
    (∀ (r : Record f.State) (key : String),
      (r.encode f.kind).get? key = (Keyed.get? key (f.members r)).join) ∧
    ∀ (j : Json) (r : Record f.State), Record.decode f.kind j = .ok r →
      f.Representable r.state ∧ Record.decode f.kind (r.encode f.kind) = .ok r := by
  have hback : ∀ r : Record f.State, f.Representable r.state →
      Record.decode f.kind (r.encode f.kind) = .ok r :=
    fun r h => Record.decode_encode f.kind_codec f.id_not_mem_names (f.fields_readBack r.state h)
  refine ⟨hback, ?_, ?_⟩
  · intro r key
    have hnames := List.nodup_cons.2 ⟨f.id_not_mem_names, f.kind_codec.names⟩
    rw [Record.get?_encode hnames, f.written_eq]
  · intro j r h
    have hrepresentable := f.representable_of_decode h
    exact ⟨hrepresentable, hback r hrepresentable⟩

namespace Route.Sparse

def record : Record Route :=
  ⟨some "", { blank with
    name := "to-nat", description := some "", priority := some Decode.minSigned,
    tags := ["a", "b"] }⟩

def object : Json := .obj [
  ("id", .null), ("kind", .str "compute#route"), ("name", .str "to-nat"), ("priority", .null),
  ("tags", .arr [.str "b", .str "a", .str "b"])]

def tidied : Record Route := ⟨none, { blank with name := "to-nat", tags := ["a", "b"] }⟩

theorem sparse_record_kept :
    record.state.Representable ∧
    Record.decode kind (record.encode kind) = .ok record ∧
    (record.encode kind).get? "description" = some (.str "") ∧
    Record.decode kind object = .ok tidied ∧
    Record.decode kind (tidied.encode kind) = .ok tidied ∧
    (tidied.encode kind).get? "id" = none ∧
    (tidied.encode kind).get? "tags" = some (.arr [.str "a", .str "b"]) := by
  obtain ⟨hkept, hmembers, hagain⟩ := record_round_trip .route
  have hrecord : record.state.Representable := ⟨by decide, by decide⟩
  have hobject : Record.decode kind object = .ok tidied := by rfl
  exact ⟨hrecord, hkept record hrecord, hmembers record "description", hobject,
    (hagain object tidied hobject).2, hmembers tidied "id", hmembers tidied "tags"⟩

end Route.Sparse

end Reconcile
