import Reconcile.Network.Address
import Reconcile.Proofs.Lifecycle.Effect
import Reconcile.Proofs.Waiting.Evidence

namespace Reconcile.Lifecycle

variable {σ : Type} {k : Kind σ} {c : Context} {r : Record σ} {s s' : Session} {p : Plan}
  {answer : Json} {op : Operation}

theorem create_of_failed {e : Failure} {s'' : Session} (hplan : plan k c r.state = .ok p)
    (hpost : posted c p s = (.ok answer, s')) (hop : Operation.ofAnswer answer = .ok op)
    (hwait : (creation k c p).wait? op s' = some (.error e, s'')) :
    create k c r s = ⟨.returned (.error e), ⟨none, r.state⟩, s''⟩ := by
  rw [create_of_plan hplan, hpost]
  simp only [finish, hop, hwait]
  rfl

theorem create_of_done {done : Operation} {s'' : Session} (hplan : plan k c r.state = .ok p)
    (hpost : posted c p s = (.ok answer, s')) (hop : Operation.ofAnswer answer = .ok op)
    (hwait : (creation k c p).wait? op s' = some (.ok done, s'')) :
    create k c r s = hydrate k c p.id r s'' := by
  rw [create_of_plan hplan, hpost]
  simp only [finish, hop, hwait]
  rfl

theorem wait?_of_returns {o : Except Failure Operation × Session}
    (hplan : plan k c r.state = .ok p) (hpost : posted c p s = (.ok answer, s'))
    (hop : Operation.ofAnswer answer = .ok op)
    (hreturns : (create k c r s).ending ≠ .overflowed) (hwait : (creation k c p).wait op s' = o) :
    (creation k c p).wait? op s' = some o := by
  by_cases hshown : s'.now + (creation k c p).timeout < Waiter.lastMoment
  · rw [Waiter.wait?_of_shown hshown, hwait]
  · rw [create_of_plan hplan, hpost] at hreturns
    simp only [finish, hop, Waiter.wait?_of_beyond hshown, ne_eq, not_true_eq_false] at hreturns

/-- The insert was accepted, and its answer or one to a poll of its operation reported the end
without an error; the session is the one after that report. -/
def Accomplished (k : Kind σ) (c : Context) (r : Record σ) (s : Session) (id : String)
    (s'' : Session) : Prop :=
  ∃ p answer s' op report done, plan k c r.state = .ok p ∧ p.id = id ∧
    posted c p s = (.ok answer, s') ∧ Operation.ofAnswer answer = .ok op ∧
    (report = answer ∨ ∃ i, (creation k c p).Told s'.now s'.reply op i report) ∧
    Operation.ofAnswer report = .ok done ∧ (report = .null ∨ report.ReportsDone) ∧
    ((creation k c p).wait? op s').map (·.2) = some s''

theorem Accomplished.create {id : String} {s'' : Session} (h : Accomplished k c r s id s'') :
    create k c r s = hydrate k c id r s'' := by
  obtain ⟨p, answer, s', op, report, done, hplan, rfl, hpost, hop, htold, hreads, hreport,
    hwaited⟩ := h
  obtain ⟨⟨result, _⟩, hwait, rfl⟩ := Option.map_eq_some_iff.1 hwaited
  have hresult := (Waiter.wait_eq_ok_iff_reported hop).2 ⟨report, htold, hreads, hreport⟩
  rw [(Waiter.wait?_eq_some_iff.1 hwait).2] at hresult
  obtain rfl : result = .ok done := hresult
  exact create_of_done hplan hpost hop hwait

theorem accomplished_of_finish {s'' : Session} (hplan : plan k c r.state = .ok p)
    (hpost : posted c p s = (.ok answer, s'))
    (hfinish : finish (creation k c p) answer s' = (.returned (.ok ()), s'')) :
    Accomplished k c r s p.id s'' := by
  have hdone := finish_effect (creation k c p) answer s'
  rw [hfinish] at hdone
  cases hdone with
  | @finished op done _ hop hwait =>
      have hresult := congrArg Prod.fst (Waiter.wait?_eq_some_iff.1 hwait).2
      obtain ⟨report, htold, hreads, hreport⟩ := (Waiter.wait_eq_ok_iff_reported hop).1 hresult
      exact ⟨p, answer, s', op, report, done, hplan, rfl, hpost, hop, htold, hreads, hreport,
        by rw [hwait]; rfl⟩

theorem create_id_or_accomplished (hreturns : (create k c r s).ending ≠ .overflowed) :
    (create k c r s).record = r ∨ (create k c r s).record = ⟨none, r.state⟩ ∨
      ∃ id s'', Accomplished k c r s id s'' := by
  have heffect := create_effect k c r s
  generalize create k c r s = o at heffect hreturns
  cases heffect with
  | unplanned => exact Or.inl rfl
  | refused => exact Or.inl rfl
  | overflowed => exact absurd rfl hreturns
  | unfinished => exact Or.inr (Or.inl rfl)
  | finished hplan hpost hfinish =>
      exact Or.inr (Or.inr ⟨_, _, accomplished_of_finish hplan hpost hfinish⟩)

theorem hydrate_of_found {id : String} {state : σ} (h : Found k c id s state) :
    (hydrate k c id r s).ending = .returned (.ok id) ∧
    (hydrate k c id r s).record = ⟨some id, state⟩ := by
  rcases hydrate_outcome k c id r s with ⟨state', hfound, hending, hrecord⟩ | ⟨hgone, _⟩ |
    ⟨hlost, _⟩
  · rw [h.unique hfound]
    exact ⟨hending, hrecord⟩
  · exact absurd hgone h.not_gone
  · exact absurd h (hlost state)

theorem hydrate_of_gone {id : String} (h : Gone k c id s) :
    (hydrate k c id r s).ending = .returned (.ok id) ∧
    (hydrate k c id r s).record = ⟨none, r.state⟩ := by
  rcases hydrate_outcome k c id r s with ⟨_, hfound, _⟩ | ⟨_, hending, hrecord⟩ | ⟨_, hgone, _⟩
  · exact absurd h hfound.not_gone
  · exact ⟨hending, hrecord⟩
  · exact absurd h hgone

theorem hydrate_of_unseen {id : String} (hlost : ∀ state, ¬ Found k c id s state)
    (hgone : ¬ Gone k c id s) :
    ∃ e, (hydrate k c id r s).ending = .returned (.error e) ∧
      (hydrate k c id r s).record = ⟨some id, r.state⟩ := by
  rcases hydrate_outcome k c id r s with ⟨state, hfound, _⟩ | ⟨h, _⟩ | ⟨_, _, hfailed⟩
  · exact absurd hfound (hlost state)
  · exact absurd h hgone
  · exact hfailed

theorem hydrate_id_isSome_iff {id : String} :
    (hydrate k c id r s).record.id.isSome ↔ ¬ Gone k c id s := by
  constructor
  · intro hsome hgone
    rw [(hydrate_of_gone hgone).2] at hsome
    cases hsome
  · intro hgone
    rcases hydrate_outcome k c id r s with ⟨_, _, _, hrecord⟩ | ⟨h, _⟩ | ⟨_, _, _, _, hrecord⟩
    · rw [hrecord]
      rfl
    · exact absurd h hgone
    · rw [hrecord]
      rfl

theorem create_id_isSome_iff (hid : r.id = none)
    (hreturns : (create k c r s).ending ≠ .overflowed) :
    (create k c r s).record.id.isSome ↔
      ∃ id s'', Accomplished k c r s id s'' ∧ ¬ Gone k c id s'' := by
  constructor
  · intro hsome
    rcases create_id_or_accomplished hreturns with h | h | ⟨id, s'', h⟩
    · simp [h, hid] at hsome
    · simp [h] at hsome
    · rw [h.create] at hsome
      exact ⟨id, s'', h, hydrate_id_isSome_iff.1 hsome⟩
  · rintro ⟨id, s'', h, hgone⟩
    rw [h.create]
    exact hydrate_id_isSome_iff.2 hgone

/-- What a create leaves. Before the insert is accepted the record stays as it was. From then on
it loses its id unless the operation is reported as done without an error; after that it has the
id of the declared identity, unless the object is gone when it is read back. -/
theorem create_record_law (k : Kind σ) (c : Context) (r : Record σ) (s : Session)
    (hreturns : (create k c r s).ending ≠ .overflowed) :
    (∀ e, plan k c r.state = .error e →
      (create k c r s).ending = .returned (.error e) ∧ (create k c r s).record = r) ∧
    (∀ p e s', plan k c r.state = .ok p → posted c p s = (.error e, s') →
      (create k c r s).ending = .returned (.error e) ∧ (create k c r s).record = r) ∧
    (∀ p answer s', plan k c r.state = .ok p → posted c p s = (.ok answer, s') →
      (∀ e, Operation.ofAnswer answer = .error e →
        (create k c r s).ending = .returned (.error e) ∧
        (create k c r s).record = ⟨none, r.state⟩) ∧
      ∀ op, Operation.ofAnswer answer = .ok op →
        (∀ e s'', (creation k c p).wait? op s' = some (.error e, s'') →
          (create k c r s).ending = .returned (.error e) ∧
          (create k c r s).record = ⟨none, r.state⟩) ∧
        ∀ done s'', (creation k c p).wait? op s' = some (.ok done, s'') →
          (∃ identity, k.identity r.state c = .ok identity ∧ k.id.render identity = .ok p.id) ∧
          (∀ state, Found k c p.id s'' state →
            (create k c r s).ending = .returned (.ok p.id) ∧
            (create k c r s).record = ⟨some p.id, state⟩) ∧
          (Gone k c p.id s'' →
            (create k c r s).ending = .returned (.ok p.id) ∧
            (create k c r s).record = ⟨none, r.state⟩) ∧
          ((∀ state, ¬ Found k c p.id s'' state) → ¬ Gone k c p.id s'' →
            ∃ e, (create k c r s).ending = .returned (.error e) ∧
              (create k c r s).record = ⟨some p.id, r.state⟩)) ∧
    (r.id = none → ((create k c r s).record.id.isSome ↔
      ∃ id s'', Accomplished k c r s id s'' ∧ ¬ Gone k c id s'')) := by
  refine ⟨?_, ?_, ?_, fun hid => create_id_isSome_iff hid hreturns⟩
  · intro e hplan
    simp only [create, hplan, and_self]
  · intro p e s' hplan hpost
    rw [create_of_plan hplan, hpost]
    exact ⟨rfl, rfl⟩
  · intro p answer s' hplan hpost
    constructor
    · intro e hop
      rw [create_of_plan hplan, hpost]
      simp only [finish_of_unreadable hop, and_self]
    · intro op hop
      constructor
      · intro e s'' hwait
        rw [create_of_failed hplan hpost hop hwait]
        exact ⟨rfl, rfl⟩
      · intro done s'' hwait
        have hplanned := plan_eq_ok_iff.1 hplan
        rw [create_of_done hplan hpost hop hwait]
        refine ⟨⟨p.identity, hplanned.1, hplanned.2.2.1⟩, ?_, ?_, ?_⟩
        · intro state hfound
          exact hydrate_of_found hfound
        · intro hgone
          exact hydrate_of_gone hgone
        · intro hlost hgone
          exact hydrate_of_unseen hlost hgone

namespace Vanishing

def context : Context := .ofDefaults ⟨some "p1", some "r1", none⟩

def record : Record Address := ⟨some "p1/r1/old", { Address.blank with name := "a1" }⟩

def planned : Plan :=
  ⟨[("name", "a1"), ("project", "p1"), ("region", "r1")], ⟨[("name", .str "a1")]⟩, "p1/r1/a1",
    "projects/p1/regions/r1/addresses"⟩

def accepted : Json := .obj [("name", .str "op-1"), ("status", .str "RUNNING")]

def handle : Operation := { Operation.blank with name := "op-1", status := .running }

def session : Session :=
  .start [.ok 0 accepted, .ok 3 (.obj [("name", .str "op-1"), ("status", .str "DONE")]),
    .missing 0] fun n => ⟨n⟩

def posted : Session := (Lifecycle.posted context planned session).2

theorem create_of_vanishing :
    (create Address.kind context record session).ending ≠ .overflowed ∧
    (create Address.kind context record session).ending = .returned (.ok "p1/r1/a1") ∧
    (create Address.kind context record session).record = ⟨none, record.state⟩ := by
  have hreturns : (create Address.kind context record session).ending ≠ .overflowed :=
    Ending.ne_overflowed (by decide +kernel)
  have hwait : (creation Address.kind context planned).wait? handle posted =
      some (.ok { handle with status := .done },
        ((creation Address.kind context planned).wait handle posted).2) := by rfl
  have hgone : Gone Address.kind context planned.id
      ((creation Address.kind context planned).wait handle posted).2 :=
    ⟨planned.identity, "projects/p1/regions/r1/addresses/a1", _, ⟨by decide +kernel, by rfl⟩,
      by rfl⟩
  have hlaw := (create_record_law Address.kind context record session hreturns).2.2.1
    planned accepted posted (by rfl) (by rfl)
  exact ⟨hreturns, ((hlaw.2 handle (by rfl)).2 _ _ hwait).2.2.1 hgone⟩

end Vanishing

end Reconcile.Lifecycle
