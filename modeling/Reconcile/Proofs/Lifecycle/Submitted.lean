import Reconcile.Proofs.Lifecycle.Trace
import Reconcile.Proofs.Network.Hydration

namespace Reconcile

namespace Reference

variable {field value : String} {project place declared : Option String} {x : Reference}
  {linked : Option Reference} {sent : Option Json} {resolves : String → Except Failure Reference}

/-- The link of a reference of this kind, with nothing left out. -/
def Complete (link collection : String) (scope : Scope) : Prop :=
  ∀ field, ∃ x, resolve field link collection scope none none = .ok x ∧ x.relativeLink = link

theorem mem_pieces (hlocated : x.Located) :
    x.project ∈ x.pieces ∧ ∀ place ∈ x.location, place ∈ x.pieces := by
  obtain ⟨p, l, c, n, scope⟩ := x
  cases scope <;> cases l <;> simp [Located] at hlocated <;> simp [pieces]

theorem complete_iff (hcollection : IsSegment x.collection)
    (h : resolve field value x.collection x.scope project place = .ok x) :
    Complete x.relativeLink x.collection x.scope ↔
      IsSegment x.project ∧ ∀ place ∈ x.location, IsSegment place := by
  have hlocated := located_of_resolve h
  constructor
  · intro hcomplete
    obtain ⟨_, hagain, _⟩ := hcomplete field
    have hsegments := isSegment_of_resolve_relativeLink hlocated hagain
    obtain ⟨hproject, hplace⟩ := mem_pieces hlocated
    exact ⟨hsegments _ hproject, fun place hmem => hsegments _ (hplace place hmem)⟩
  · rintro ⟨hproject, hplace⟩ field
    have hsegments := isSegment_of_mem_pieces hcollection hproject hplace (isSegment_of_resolve h)
    exact ⟨x, resolve_relativeLink hlocated hsegments, rfl⟩

theorem sent_of_linked (hsent : sent = linked.map (.str ·.relativeLink))
    (hlinked : Linked resolves declared linked) (hvalue : declared = some value)
    (hx : resolves value = .ok x) : sent = some (.str x.relativeLink) := by
  subst hvalue
  cases hlinked with
  | some hr =>
      rw [hx, Except.ok.injEq] at hr
      rw [hsent, hr]
      rfl

end Reference

theorem Address.refers_of_sent {a : Address} {c : Context} {p : Payload} {identity : Fields}
    (hidentity : a.identity c = .ok identity) (hexpand : a.expand c = .ok p) :
    ∀ key ∈ referenceKeys, ∀ link, p.get? key = some link →
      ∃ x, a.Refers identity key x ∧ link = .str x.relativeLink := by
  obtain ⟨_, subnetwork, region, hidentity', hrefers, hcarries⟩ := expand_eq_ok hexpand
  rw [hidentity, Except.ok.injEq] at hidentity'
  subst hidentity'
  obtain ⟨hsubnetwork, hregion⟩ := refers_of_refersTo hrefers
  intro key hkey link hlink
  simp only [referenceKeys, List.mem_cons, List.not_mem_nil, or_false] at hkey
  rcases hkey with rfl | rfl
  · exact Reference.exists_of_sent (hcarries "subnetwork") hsubnetwork hlink
  · exact Reference.exists_of_sent (hcarries "region") hregion hlink

theorem Address.sent_of_refers {a : Address} {c : Context} {p : Payload} {identity : Fields}
    {key : String} {x : Reference} (hidentity : a.identity c = .ok identity)
    (hexpand : a.expand c = .ok p) (h : a.Refers identity key x) :
    p.get? key = some (.str x.relativeLink) := by
  obtain ⟨_, _, _, hidentity', hrefers, hcarries⟩ := expand_eq_ok hexpand
  rw [hidentity, Except.ok.injEq] at hidentity'
  subst hidentity'
  cases h with
  | subnetwork hvalue hr =>
      exact Reference.sent_of_linked (hcarries "subnetwork") hrefers.subnetwork hvalue hr
  | region hvalue hr =>
      exact Reference.sent_of_linked (hcarries "region") hrefers.region hvalue hr

theorem Route.refers_of_sent {r : Route} {c : Context} {p : Payload} {identity : Fields}
    (hidentity : r.identity c = .ok identity) (hexpand : r.expand c = .ok p) :
    ∀ key ∈ referenceKeys, ∀ link, p.get? key = some link →
      ∃ x, r.Refers c identity key x ∧ link = .str x.relativeLink := by
  obtain ⟨_, t, _, hidentity', hrefers, hcarries⟩ := expand_eq_ok hexpand
  rw [hidentity, Except.ok.injEq] at hidentity'
  subst hidentity'
  obtain ⟨hnetwork, hinstance, hgateway, hnext⟩ := refers_of_refersTo hrefers
  intro key hkey link hlink
  simp only [referenceKeys, List.mem_cons, List.not_mem_nil, or_false] at hkey
  rcases hkey with rfl | rfl | rfl | rfl
  · exact Reference.exists_of_sent (hcarries "network") hnetwork hlink
  · exact Reference.exists_of_sent (hcarries "nextHopInstance") hinstance hlink
  · exact Reference.exists_of_sent (hcarries "nextHopGateway") hgateway hlink
  · exact Reference.exists_of_sent (hcarries "nextHopNetwork") hnext hlink

theorem Route.sent_of_refers {r : Route} {c : Context} {p : Payload} {identity : Fields}
    {key : String} {x : Reference} (hidentity : r.identity c = .ok identity)
    (hexpand : r.expand c = .ok p) (h : r.Refers c identity key x) :
    p.get? key = some (.str x.relativeLink) := by
  obtain ⟨_, t, _, hidentity', hrefers, hcarries⟩ := expand_eq_ok hexpand
  rw [hidentity, Except.ok.injEq] at hidentity'
  subst hidentity'
  cases h with
  | network hr =>
      have hsent : p.get? "network" = (some t.network).map (.str ·.relativeLink) :=
        hcarries "network"
      exact Reference.sent_of_linked hsent hrefers.network rfl hr
  | nextHopInstance hvalue hr =>
      exact Reference.sent_of_linked (hcarries "nextHopInstance") hrefers.nextHopInstance hvalue hr
  | nextHopGateway hvalue hr =>
      exact Reference.sent_of_linked (hcarries "nextHopGateway") hrefers.nextHopGateway hvalue hr
  | nextHopNetwork hvalue hr =>
      exact Reference.sent_of_linked (hcarries "nextHopNetwork") hrefers.nextHopNetwork hvalue hr

namespace Family

variable {f : Family} {state : f.State} {c : Context} {p : Payload} {identity : Fields}
  {key : String} {x : Reference}

def placeFor : (f : Family) → f.State → Context → Fields → String → Option String
  | .address, _, _, identity, key =>
      if key = "subnetwork" then Keyed.get? "region" identity else none
  | .route, r, c, _, key =>
      if key = "nextHopInstance" then r.nextHopInstanceZone <|> c.zone else none

theorem sent_iff_refers (hidentity : f.kind.identity state c = .ok identity)
    (hexpand : f.kind.expand state c = .ok p) (hkey : key ∈ f.referenceKeys) {link : Json} :
    p.get? key = some link ↔
      ∃ x, f.Refers state c identity key x ∧ link = .str x.relativeLink := by
  cases f with
  | address =>
      refine ⟨Address.refers_of_sent hidentity hexpand key hkey link, ?_⟩
      rintro ⟨x, hrefers, rfl⟩
      exact Address.sent_of_refers hidentity hexpand hrefers
  | route =>
      refine ⟨Route.refers_of_sent hidentity hexpand key hkey link, ?_⟩
      rintro ⟨x, hrefers, rfl⟩
      exact Route.sent_of_refers hidentity hexpand hrefers

theorem resolve_of_refers (h : f.Refers state c identity key x) :
    ∃ field value, IsSegment x.collection ∧
      Reference.resolve field value x.collection x.scope (Keyed.get? "project" identity)
        (f.placeFor state c identity key) = .ok x := by
  have hkept : ∀ {field value collection scope place}, IsSegment collection →
      Reference.resolve field value collection scope (Keyed.get? "project" identity) place =
        .ok x →
      f.placeFor state c identity key = place →
      ∃ field value, IsSegment x.collection ∧
        Reference.resolve field value x.collection x.scope (Keyed.get? "project" identity)
          (f.placeFor state c identity key) = .ok x := by
    intro field value collection scope place hcollection hr hplace
    obtain ⟨rfl, rfl⟩ := Reference.kind_of_resolve hr
    exact ⟨field, value, hcollection, hplace ▸ hr⟩
  cases f with
  | address =>
      cases h with
      | subnetwork _ hr => exact hkept (by decide) hr rfl
      | region _ hr => exact hkept (by decide) hr rfl
  | route =>
      cases h with
      | network hr => exact hkept (by decide) hr rfl
      | nextHopInstance _ hr => exact hkept (by decide) hr rfl
      | nextHopGateway _ hr => exact hkept (by decide) hr rfl
      | nextHopNetwork _ hr => exact hkept (by decide) hr rfl

end Family

namespace Lifecycle

theorem sent_create_of_plan {σ : Type} {k : Kind σ} {c : Context} {r : Record σ} {p : Plan}
    (hplan : plan k c r.state = .ok p) (s : Session) :
    ∃ later, (create k c r s).session.sent = s.sent ++ insertion c p s :: later := by
  obtain ⟨polls, _, hlast⟩ := create_sends (s := s) hplan
  rcases hlast with hsent | ⟨_, _, s'', _, _, hbefore, hlast⟩
  · exact ⟨polls, hsent⟩
  · exact ⟨_, by rw [hlast, hbefore, List.append_assoc, List.cons_append]⟩

theorem plan_of_sent {σ : Type} {k : Kind σ} {c : Context} {r : Record σ} {s : Session}
    (hsends : (create k c r s).session.sent ≠ s.sent) : ∃ p, plan k c r.state = .ok p := by
  cases hplan : plan k c r.state with
  | ok p => exact ⟨p, rfl⟩
  | error e => exact absurd (by simp only [create, hplan]) hsends

/-- A create that sends anything sends its body first. This has the link to each object that the
declared state refers to, and no other. The link says all of it exactly if the project and the place
that went into it are segments. They are, unless the declared value leaves them out. -/
theorem submitted_link_complete_iff (f : Family) (c : Context) (r : Record f.State) (s : Session)
    (hsends : (create f.kind c r s).session.sent ≠ s.sent) :
    ∃ p later, plan f.kind c r.state = .ok p ∧
      (create f.kind c r s).session.sent = s.sent ++ insertion c p s :: later ∧
      (∀ key ∈ f.referenceKeys, ∀ link, p.payload.get? key = some link ↔
        ∃ x, f.Refers r.state c p.identity key x ∧ link = .str x.relativeLink) ∧
      ∀ key x, f.Refers r.state c p.identity key x →
        (Reference.Complete x.relativeLink x.collection x.scope ↔
          IsSegment x.project ∧ ∀ place ∈ x.location, IsSegment place) ∧
        (IsSegment x.project ∨ Keyed.get? "project" p.identity = some x.project) ∧
        ∀ place ∈ x.location,
          IsSegment place ∨ f.placeFor r.state c p.identity key = some place := by
  obtain ⟨p, hplan⟩ := plan_of_sent hsends
  obtain ⟨later, hsent⟩ := sent_create_of_plan hplan s
  obtain ⟨hidentity, hexpand, _⟩ := plan_eq_ok_iff.1 hplan
  refine ⟨p, later, hplan, hsent, ?_, ?_⟩
  · intro key hkey link
    exact Family.sent_iff_refers hidentity hexpand hkey
  · intro key x hrefers
    obtain ⟨field, value, hcollection, hr⟩ := Family.resolve_of_refers hrefers
    exact ⟨Reference.complete_iff hcollection hr, Reference.parts_of_resolve hr⟩

namespace Hopping

def context : Context := .ofDefaults ⟨some "p1", none, none⟩

def record (zone : String) : Record Family.route.State :=
  ⟨none, { Route.blank with
    name := "to-nat", destRange := "0.0.0.0/0", network := "default"
    nextHopInstance := some "nat", nextHopInstanceZone := some zone }⟩

def session : Session := .start [] fun n => ⟨n⟩

def hop (zone : String) : String := "projects/p1/zones/" ++ zone ++ "/instances/nat"

theorem declared_zone_sent :
    (create Family.route.kind context (record "us-central1-b") session).session.sent ≠
      session.sent ∧
    ∃ p, plan Family.route.kind context (record "us-central1-b").state = .ok p ∧
      p.payload.get? "nextHopInstance" = some (.str (hop "us-central1-b")) ∧
      Reference.Complete (hop "us-central1-b") "instances" .zonal := by
  have hsends : (create Family.route.kind context (record "us-central1-b") session).session.sent ≠
      session.sent := by
    intro h
    have hlength := congrArg List.length h
    revert hlength
    decide +kernel
  obtain ⟨p, _, hplan, _, hlinks, hall⟩ :=
    submitted_link_complete_iff .route context (record "us-central1-b") session hsends
  have hlink : p.payload.get? "nextHopInstance" = some (.str (hop "us-central1-b")) := by
    cases hplan
    rfl
  refine ⟨hsends, p, hplan, hlink, ?_⟩
  obtain ⟨x, hrefers, hx⟩ := (hlinks _ (by decide) _).1 hlink
  obtain ⟨hcomplete, hproject, hplace⟩ := hall _ x hrefers
  have hkind : x.collection = "instances" ∧ x.scope = .zonal := by
    generalize hkey : "nextHopInstance" = key at hrefers
    cases hrefers with
    | network => exact absurd hkey (by decide)
    | nextHopInstance _ hr => exact Reference.kind_of_resolve hr
    | nextHopGateway => exact absurd hkey (by decide)
    | nextHopNetwork => exact absurd hkey (by decide)
  have hgiven : Keyed.get? "project" p.identity = some "p1" := by
    cases hplan
    rfl
  rw [hgiven] at hproject
  rw [hkind.1, hkind.2, ← Json.str.inj hx] at hcomplete
  refine hcomplete.2 ⟨?_, ?_⟩
  · rcases hproject with hsegment | hdefault
    · exact hsegment
    · rw [← Option.some.inj hdefault]
      decide
  · intro place hmem
    rcases hplace place hmem with hsegment | hdefault
    · exact hsegment
    · rw [← Option.some.inj hdefault]
      decide

/-- An empty zone is put into the link as it is, which then cannot be read. -/
theorem empty_zone_sent :
    (create Family.route.kind context (record "") session).session.sent.map (fun q =>
        (q.request.method, q.request.body.bind (·.get? "nextHopInstance"))) =
      [(.post, some (.str (hop "")))] ∧
    ¬ Reference.Complete (hop "") "instances" .zonal := by
  refine ⟨by rfl, ?_⟩
  intro hcomplete
  obtain ⟨x, hx, _⟩ := hcomplete "next_hop_instance"
  have hlocated : Reference.Located ⟨"p1", some "", "instances", "nat", .zonal⟩ := by
    simp [Reference.Located]
  have hsegments := Reference.isSegment_of_resolve_relativeLink hlocated hx
  exact (hsegments "" (by decide)).1 rfl

end Hopping

end Lifecycle

end Reconcile
