import Reconcile.Proofs.Network.InsertBody
import Reconcile.Proofs.Reference.Grammar

namespace Reconcile

def Rejected {α : Type} (x : Except Failure α) : Prop :=
  ∃ field expected, x = .error (.invalidReference field "" expected)

section Rejected

variable {α β : Type} {x x' : Except Failure α} {f f' : α → Except Failure β}

theorem rejected_bind_iff :
    Rejected (x >>= f) ↔ Rejected x ∨ ∃ a, x = .ok a ∧ Rejected (f a) := by
  cases x with
  | error e => simp [Rejected, bind, Except.bind]
  | ok a => simp [Rejected, bind, Except.bind]

theorem not_rejected_of_ok {a : α} (h : ¬ Rejected (x >>= f)) (hx : x = .ok a) :
    ¬ Rejected (f a) :=
  fun hrejected => h (rejected_bind_iff.2 (.inr ⟨a, hx, hrejected⟩))

theorem bind_eq_of_not_rejected (h : ¬ Rejected (x >>= f)) (hx : ¬ Rejected x → x' = x)
    (hf : ∀ a, x = .ok a → ¬ Rejected (f a) → f' a = f a) : (x' >>= f') = x >>= f := by
  rw [rejected_bind_iff, not_or] at h
  rw [hx h.1]
  cases hok : x with
  | error e => rfl
  | ok a => exact hf a hok fun hrejected => h.2 ⟨a, hok, hrejected⟩

theorem not_rejected_of_invalid (h : ∀ e, x = .error e → ∃ field flaw, e = .invalid field flaw) :
    ¬ Rejected x := by
  rintro ⟨field, expected, hx⟩
  obtain ⟨_, _, hinvalid⟩ := h _ hx
  cases hinvalid

end Rejected

namespace Reference

variable {field value collection text : String} {scope : Scope}
  {project location location' declared declared' : Option String} {r r' : Reference}

theorem resolve_of_stripUrl_error {e : Failure} (h : stripUrl field value = .error e) :
    resolve field value collection scope project location = .error e := by
  rw [resolve, h]
  rfl

theorem resolve_rejected_iff :
    Rejected (resolve field value collection scope project location) ↔ value = "" := by
  constructor
  · rintro ⟨field', expected, h⟩
    cases hstrip : stripUrl field value with
    | error e =>
        rw [resolve_of_stripUrl_error hstrip] at h
        cases h
        unfold stripUrl at hstrip
        split at hstrip
        · split at hstrip
          · cases hstrip
          · split at hstrip
            · cases hstrip
            · cases hstrip
              rfl
        · cases hstrip
    | ok relative =>
        rcases (resolve_eq_error_iff hstrip).1 h with ⟨_, he⟩ | ⟨_, _, _, _, he⟩
        · cases he
          rfl
        · cases he
  · rintro rfl
    exact ⟨field, _, rfl⟩

theorem mapM_rejected_iff :
    Rejected (declared.mapM (resolve field · collection scope project location)) ↔
      declared = some "" := by
  cases declared with
  | none => exact iff_of_false nofun nofun
  | some value =>
      rw [Option.some.injEq, ← @resolve_rejected_iff field value collection scope project location,
        Option.mapM_some]
      cases resolve field value collection scope project location <;>
        simp [Rejected, Functor.map, Except.map]

theorem resolve_of_other_place
    (h : ∀ r, resolve field value collection scope project (some text) = .ok r →
      r.location = some text → location = some text) :
    resolve field value collection scope project location =
      resolve field value collection scope project (some text) := by
  cases hstrip : stripUrl field value with
  | error e => rw [resolve_of_stripUrl_error hstrip, resolve_of_stripUrl_error hstrip]
  | ok relative =>
      cases hr : resolve field value collection scope project (some text) with
      | error e =>
          rw [resolve_eq_error_iff hstrip] at hr ⊢
          rcases hr with hnone | ⟨parts, hole, hsaid, hlacks, he⟩
          · exact .inl hnone
          · cases hlacks with
            | project hproject => exact .inr ⟨parts, .project, hsaid, .project hproject, he⟩
            | place _ _ hlocation => cases hown : parts.location <;> simp [hown] at hlocation
      | ok r =>
          obtain ⟨hcollection, hscope, parts, hsaid, hcompletes⟩ := (resolve_eq_ok_iff hstrip).1 hr
          refine (resolve_eq_ok_iff hstrip).2 ⟨hcollection, hscope, parts, hsaid,
            { hcompletes with location := ?_ }⟩
          intro l hl
          have hfound := hcompletes.location l hl
          cases hown : parts.location with
          | some own => rwa [hown] at hfound
          | none =>
              rw [hown] at hfound
              cases hfound
              exact h r hr hl

theorem resolve_in_place (h : resolve field value collection scope project location = .ok r)
    (h' : resolve field value collection scope project location' = .ok r') :
    r' = { r with location := r'.location } := by
  obtain ⟨relative, parts, hstrip, _, hshape, hproject, _, hcollection, hname, hscope⟩ :=
    resolve_eq_ok h
  obtain ⟨relative', parts', hstrip', _, hshape', hproject', _, hcollection', hname', hscope'⟩ :=
    resolve_eq_ok h'
  cases hstrip.symm.trans hstrip'
  cases hshape.parts?_eq.symm.trans hshape'.parts?_eq
  have hsame := Option.some.inj (hproject'.symm.trans hproject)
  rw [← hcollection'] at hcollection
  rw [← hname'] at hname
  rw [← hscope'] at hscope
  cases r
  cases r'
  simp_all

theorem eq_of_same_link (h : r' = { r with location := r'.location }) (hlocated : r.Located)
    (hlocated' : r'.Located) (hlink : r'.relativeLink = r.relativeLink) : r' = r := by
  obtain ⟨p, l, c, n, scope⟩ := r
  obtain ⟨p', l', c', n', scope'⟩ := r'
  cases h
  cases scope <;> cases l <;> cases l' <;> simp_all [Located, relativeLink]

end Reference

inductive Omits : Option String → Option String → Prop
  | kept {declared : Option String} : Omits declared declared
  | omitted : Omits (some "") none

theorem omits_filled (declared : Option String) : Omits declared (filled declared) := by
  cases declared with
  | none => exact .kept
  | some text =>
      cases hempty : text.isEmpty with
      | true =>
          rw [String.isEmpty_iff.1 hempty]
          exact .omitted
      | false =>
          rw [filled_of_nonempty hempty]
          exact .kept

theorem filled_ne_empty {declared : Option String} : filled declared ≠ some "" := by
  intro hempty
  cases (Option.mem_filter_iff.1 hempty).2

theorem Omits.filled_eq {declared declared' : Option String} (h : Omits declared declared') :
    filled declared' = filled declared := by
  cases h <;> rfl

theorem Omits.eq_or {declared declared' : Option String} (h : Omits declared declared') :
    declared' = declared ∨ declared = some "" ∧ declared' = none := by
  cases h with
  | kept => exact .inl rfl
  | omitted => exact .inr ⟨rfl, rfl⟩

theorem Omits.eq_of_ne {declared declared' : Option String} (h : Omits declared declared')
    (hne : declared ≠ some "") : declared' = declared :=
  h.eq_or.resolve_right fun hempty => hne hempty.1

theorem eq_none_of_unfilled {declared : Option String} (h : filled declared = none)
    (hne : declared ≠ some "") : declared = none := by
  rw [← (omits_filled declared).eq_of_ne hne, h]

namespace Route

variable {r r' : Route} {c : Context} {p : Payload} {identity : Fields} {t : Targets}
  {hop : Reference} {e : Failure}

inductive OmitsHops (r : Route) : Route → Prop
  | mk {ip hop zone gateway next : Option String} : Omits r.nextHopIp ip →
      Omits r.nextHopInstance hop → Omits r.nextHopInstanceZone zone →
      Omits r.nextHopGateway gateway → Omits r.nextHopNetwork next →
      OmitsHops r
        { r with
          nextHopIp := ip, nextHopInstance := hop, nextHopInstanceZone := zone
          nextHopGateway := gateway, nextHopNetwork := next }

/-- An empty next hop is taken for a reference, or the instance for one in a zone of no name where
the default zone is another. -/
inductive ShowsEmpty (r : Route) (c : Context) : Prop
  | rejected {field expected : String} :
      r.expand c = .error (.invalidReference field "" expected) → ShowsEmpty r c
  | placed {p : Payload} {identity : Fields} {t : Targets} {hop : Reference} :
      r.expand c = .ok p → r.identity c = .ok identity → r.RefersTo c identity t →
      t.nextHopInstance = some hop → hop.location = some "" → c.zone ≠ some "" → ShowsEmpty r c

theorem OmitsHops.validate_eq (h : OmitsHops r r') : r'.validate = r.validate := by
  cases h with
  | mk hip hinstance _ hgateway hnetwork =>
      simp only [validate, checkHops, nextHops, List.filterMap_cons, ← isSome_filled,
        hip.filled_eq, hinstance.filled_eq, hgateway.filled_eq, hnetwork.filled_eq]

theorem OmitsHops.identity_eq (h : OmitsHops r r') (c : Context) :
    r'.identity c = r.identity c := by
  cases h
  rfl

theorem OmitsHops.written_eq (h : OmitsHops r r') (t : Targets) : r'.written t = r.written t := by
  cases h with
  | mk hip => simp only [written, hip.filled_eq]

theorem identity_eq_error (h : r.identity c = .error e) :
    ∃ field flaw, e = .invalid field flaw := by
  unfold identity at h
  dsimp only at h
  split at h
  · cases h
    exact ⟨_, _, rfl⟩
  · rcases bind_eq_error_iff.1 h with hproject | ⟨_, _, hdone⟩
    · unfold projectOf at hproject
      split at hproject
      · cases hproject
      · cases hproject
        exact ⟨_, _, rfl⟩
    · cases hdone

theorem unfilled_beside_instance (hvalid : r.validate = .ok ())
    (h : (filled r.nextHopInstance).isSome) :
    filled r.nextHopGateway = none ∧ filled r.nextHopNetwork = none := by
  obtain ⟨hop, _, hunique⟩ :=
    existsUnique_filledHop (checkHops_eq_ok_iff.1 (validate_eq_ok_iff.1 hvalid).2.2.2)
  have hinstance := hunique ("nextHopInstance", r.nextHopInstance) ⟨by simp [hops], h⟩
  have hother : ∀ key declared, (key, declared) ∈ r.hops → key ≠ "nextHopInstance" →
      filled declared = none := by
    intro key declared hmem hne
    cases hfilled : filled declared with
    | none => rfl
    | some text =>
        have hsame := hunique (key, declared) ⟨hmem, by rw [hfilled]; rfl⟩
        exact absurd (congrArg Prod.fst (hsame.trans hinstance.symm)) hne
  exact ⟨hother "nextHopGateway" _ (by simp [hops]) (by decide),
    hother "nextHopNetwork" _ (by simp [hops]) (by decide)⟩

theorem targets_of_instance {value : String} {network : Reference} (hvalid : r.validate = .ok ())
    (hkept : ¬ Rejected (r.targets c identity))
    (hnetwork : Reference.resolve "network" r.network "networks" .global
      (Keyed.get? "project" identity) none = .ok network)
    (hdeclared : r.nextHopInstance = some value)
    (hhop : Reference.resolve "next_hop_instance" value "instances" .zonal
      (Keyed.get? "project" identity) (r.nextHopInstanceZone <|> c.zone) = .ok hop) :
    r.targets c identity = .ok ⟨network, some hop, none, none⟩ := by
  have hfilled : (filled r.nextHopInstance).isSome := by
    rw [hdeclared, filled_of_nonempty (Reference.isEmpty_of_resolve hhop)]
    rfl
  have hlinked : Reference.Linked (Reference.resolve "next_hop_instance" · "instances" .zonal
      (Keyed.get? "project" identity) (r.nextHopInstanceZone <|> c.zone)) r.nextHopInstance
      (some hop) := by
    rw [hdeclared]
    exact .some hhop
  obtain ⟨hgateway, hnext⟩ := unfilled_beside_instance hvalid hfilled
  unfold targets at hkept
  dsimp only at hkept
  have hhops := not_rejected_of_ok hkept hnetwork
  have hrest := not_rejected_of_ok hhops (Reference.linked_iff.1 hlinked)
  have hnoGateway : r.nextHopGateway = none := by
    refine eq_none_of_unfilled hgateway fun hempty => hrest (rejected_bind_iff.2 (.inl ?_))
    exact Reference.mapM_rejected_iff.2 hempty
  have hlast := not_rejected_of_ok hrest
    (Reference.linked_iff.1 (by rw [hnoGateway]; exact .none))
  have hnoNetwork : r.nextHopNetwork = none := by
    refine eq_none_of_unfilled hnext fun hempty => hlast (rejected_bind_iff.2 (.inl ?_))
    exact Reference.mapM_rejected_iff.2 hempty
  refine targets_eq_ok_iff.2 ⟨.some hnetwork, hlinked, ?_, ?_⟩
  · rw [hnoGateway]
    exact .none
  · rw [hnoNetwork]
    exact .none

theorem OmitsHops.targets_eq (h : OmitsHops r r') (hvalid : r.validate = .ok ())
    (hkept : ¬ Rejected (r.targets c identity))
    (hplaced : ∀ t hop, r.targets c identity = .ok t → t.nextHopInstance = some hop →
      hop.location = some "" → c.zone = some "") :
    r'.targets c identity = r.targets c identity := by
  cases h with
  | mk _ hinstance hzone hgateway hnext =>
      have hwhole := hkept
      unfold targets at hkept ⊢
      -- Step by step: what comes before a step has not rejected anything.
      refine bind_eq_of_not_rejected hkept (fun _ => rfl) fun network hnetwork hkept => ?_
      refine bind_eq_of_not_rejected hkept (fun hkept => ?_) fun hop hhop hkept => ?_
      · rw [hinstance.eq_of_ne (mt Reference.mapM_rejected_iff.2 hkept)]
        rcases hzone.eq_or with hsame | ⟨hempty, hnone⟩
        · rw [hsame]
        · rw [hempty, hnone]
          cases hdeclared : r.nextHopInstance with
          | none => rfl
          | some value =>
              rw [Option.mapM_some, Option.mapM_some]
              congr 1
              -- In the empty zone, the instance is the one next hop and the body is made.
              refine Reference.resolve_of_other_place fun placed hr hlocation => ?_
              have hzoned : (r.nextHopInstanceZone <|> c.zone) = some "" := by rw [hempty]; rfl
              exact hplaced _ placed
                (targets_of_instance hvalid hwhole hnetwork hdeclared (by rw [hzoned]; exact hr))
                rfl hlocation
      · refine bind_eq_of_not_rejected hkept (fun hkept => ?_) fun gateway _ hkept => ?_
        · rw [hgateway.eq_of_ne (mt Reference.mapM_rejected_iff.2 hkept)]
        · refine bind_eq_of_not_rejected hkept (fun hkept => ?_) fun next _ _ => rfl
          rw [hnext.eq_of_ne (mt Reference.mapM_rejected_iff.2 hkept)]

theorem OmitsHops.expand_eq (h : OmitsHops r r') (hshows : ¬ r.ShowsEmpty c) :
    r'.expand c = r.expand c := by
  have hkept : ¬ Rejected (r.expand c) :=
    fun ⟨_, _, hrejected⟩ => hshows (.rejected hrejected)
  rw [Route.expand_eq] at hkept
  rw [Route.expand_eq, Route.expand_eq, h.validate_eq, h.identity_eq]
  refine bind_eq_of_not_rejected hkept (fun _ => rfl) fun _ hvalid hkept => ?_
  refine bind_eq_of_not_rejected hkept (fun _ => rfl) fun identity hidentity hkept => ?_
  simp only [h.written_eq]
  refine bind_eq_of_not_rejected hkept (fun hkept => h.targets_eq hvalid hkept ?_) fun _ _ _ => rfl
  intro t hop htargets hhop hlocation
  by_contra hzone
  have hrefers := targets_eq_ok_iff.1 htargets
  obtain ⟨p, hexpand, _⟩ := exists_expand hvalid hidentity hrefers
  exact hshows (.placed hexpand hidentity hrefers hhop hlocation hzone)

theorem not_rejected_of_hops (c : Context) (hinstance : r.nextHopInstance ≠ some "")
    (hgateway : r.nextHopGateway ≠ some "") (hnext : r.nextHopNetwork ≠ some "") :
    ¬ Rejected (r.expand c) := by
  have htargets : ∀ identity, r.network.isEmpty = false → ¬ Rejected (r.targets c identity) := by
    intro identity hnetwork
    simp only [targets, rejected_bind_iff, Reference.resolve_rejected_iff,
      Reference.mapM_rejected_iff]
    rintro (hempty | ⟨_, _, hempty | ⟨_, _, hempty | ⟨_, _, hempty | ⟨_, _, _, _, hdone⟩⟩⟩⟩)
    · rw [hempty] at hnetwork
      cases hnetwork
    · exact hinstance hempty
    · exact hgateway hempty
    · exact hnext hempty
    · cases hdone
  rw [Route.expand_eq]
  simp only [rejected_bind_iff]
  rintro (hrejected | ⟨_, hvalid, hrejected | ⟨identity, _, hrejected | ⟨_, _, _, _, hdone⟩⟩⟩)
  · exact not_rejected_of_invalid (fun _ => validate_eq_error) hrejected
  · exact not_rejected_of_invalid (fun _ => identity_eq_error) hrejected
  · exact htargets identity (validate_eq_ok_iff.1 hvalid).2.1 hrejected
  · cases hdone

theorem expand_ne_of_placed (hexpand : r.expand c = .ok p) (hidentity : r.identity c = .ok identity)
    (hrefers : r.RefersTo c identity t) (hhop : t.nextHopInstance = some hop)
    (hlocation : hop.location = some "") (hzone : c.zone ≠ some "") :
    r.nextHopInstanceZone = some "" ∧
      { r with nextHopInstanceZone := none }.expand c ≠ r.expand c := by
  have hnone : ¬ IsSegment "" := by decide
  obtain ⟨value, hvalue, hr⟩ := Reference.exists_of_linked hrefers.nextHopInstance hop hhop
  have hfallback := ((Reference.parts_of_resolve hr).2 "" hlocation).resolve_left hnone
  constructor
  · cases hdeclared : r.nextHopInstanceZone with
    | none =>
        rw [hdeclared] at hfallback
        exact absurd hfallback hzone
    | some zone => rwa [hdeclared] at hfallback
  · intro hsame
    rw [hexpand] at hsame
    obtain ⟨identity', t', _, hidentity', hrefers', hcarries'⟩ := expand_eq_ok hsame
    obtain ⟨_, t'', _, hidentity'', hrefers'', hcarries⟩ := expand_eq_ok hexpand
    cases hidentity.symm.trans hidentity''
    cases hidentity.symm.trans hidentity'
    cases (targets_eq_ok_iff.2 hrefers).symm.trans (targets_eq_ok_iff.2 hrefers'')
    have hlink : p.get? "nextHopInstance" = t.nextHopInstance.map (.str ·.relativeLink) :=
      hcarries "nextHopInstance"
    have hlink' : p.get? "nextHopInstance" = t'.nextHopInstance.map (.str ·.relativeLink) :=
      hcarries' "nextHopInstance"
    rw [hlink, hhop, eq_comm] at hlink'
    obtain ⟨hop', hhop', hequal⟩ := Option.map_eq_some_iff.1 hlink'
    obtain ⟨value', hvalue', hr'⟩ := Reference.exists_of_linked hrefers'.nextHopInstance hop' hhop'
    cases hvalue.symm.trans hvalue'
    have hback := Reference.eq_of_same_link (Reference.resolve_in_place hr hr')
      (Reference.located_of_resolve hr) (Reference.located_of_resolve hr') (Json.str.inj hequal)
    rw [← hback] at hlocation
    exact hzone (((Reference.parts_of_resolve hr').2 "" hlocation).resolve_left hnone)

/-- To the check of a route an empty next hop is none, and in the request body an empty address is
none. Leaving out empty next hops makes no other request body exactly if none of them is rejected as
a reference, and no instance is placed in a zone of no name in place of the default one. -/
theorem omitted_hops_iff (r : Route) (c : Context) :
    (∀ r', OmitsHops r r' → r'.validate = r.validate ∧ r'.identity c = r.identity c) ∧
      { r with nextHopIp := filled r.nextHopIp }.expand c = r.expand c ∧
      ((∀ r', OmitsHops r r' → r'.expand c = r.expand c) ↔ ¬ r.ShowsEmpty c) := by
  refine ⟨fun r' h => ⟨h.validate_eq, h.identity_eq c⟩, ?_, ?_⟩
  · have hip : OmitsHops r { r with nextHopIp := filled r.nextHopIp } :=
      .mk (omits_filled _) .kept .kept .kept .kept
    rw [Route.expand_eq, Route.expand_eq, hip.validate_eq, hip.identity_eq]
    simp only [hip.written_eq]
    rfl
  · refine ⟨fun hsame hshows => ?_, fun hshows r' h => h.expand_eq hshows⟩
    cases hshows with
    | rejected hrejected =>
        have hfilled := hsame _ (.mk (omits_filled _) (omits_filled _) (omits_filled _)
          (omits_filled _) (omits_filled _))
        rw [hrejected] at hfilled
        exact not_rejected_of_hops c filled_ne_empty filled_ne_empty filled_ne_empty ⟨_, _, hfilled⟩
    | placed hexpand hidentity hrefers hhop hlocation hzone =>
        obtain ⟨hempty, hne⟩ :=
          expand_ne_of_placed hexpand hidentity hrefers hhop hlocation hzone
        exact hne (hsame _ (.mk .kept .kept (by rw [hempty]; exact .omitted) .kept .kept))

namespace EmptyInstance

def context : Context := .ofDefaults ⟨some "p1", none, none⟩

def route : Route :=
  { blank with
    name := "to-nat", destRange := "0.0.0.0/0", network := "default"
    nextHopIp := some "10.128.0.2", nextHopInstance := some "" }

def omitted : Route := { route with nextHopInstance := none }

def payload : Payload :=
  ⟨[("destRange", .str "0.0.0.0/0"), ("name", .str "to-nat"),
    ("network", .str "projects/p1/global/networks/default"), ("nextHopIp", .str "10.128.0.2")]⟩

/-- The empty instance is rejected, though the route is valid with it and without. -/
theorem empty_instance_rejected :
    OmitsHops route omitted ∧ route.validate = .ok () ∧ omitted.expand context = .ok payload ∧
      route.expand context =
        .error (.invalidReference "next_hop_instance" ""
          (", ".intercalate (Reference.shapes "instances" .zonal))) :=
  ⟨.mk .kept .omitted .kept .kept .kept, rfl, rfl, rfl⟩

end EmptyInstance

end Route

end Reconcile
