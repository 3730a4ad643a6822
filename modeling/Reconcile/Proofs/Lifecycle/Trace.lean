import Reconcile.Proofs.Lifecycle.Recorded
import Reconcile.Proofs.Waiting.OneOperation

namespace Reconcile

namespace Waiter

variable {w : Waiter} {start : Duration} {script : Nat → Reply} {handle : Operation} {k : Nat}
  {q : Sent}

def IsPoll (w : Waiter) (q : Sent) : Prop :=
  ∃ op : Operation, op.phase = .polling ∧ op.name.isEmpty = false ∧
    q.request = ⟨.get, w.context.endpoint ++
      ("projects/" ++ w.project ++ "/" ++ op.place ++ "/operations/" ++ op.name), none⟩

theorem isPoll_of_path? {op : Operation} {path : String} {moment : Duration}
    (hp : op.phase = .polling) (hpath : op.path? w.project = some path) :
    w.IsPoll ⟨w.pollRequest path, moment⟩ := by
  obtain ⟨hname, rfl⟩ := Operation.path?_eq_some_iff.1 hpath
  exact ⟨op, hp, by simpa using hname, w.look_eq op⟩

theorem Asks.isPoll (h : w.Asks start script handle k q) : w.IsPoll q := by
  obtain ⟨_, hp, _, hpath⟩ := h
  exact isPoll_of_path? hp hpath

theorem wait_polls (w : Waiter) (handle : Operation) (s : Session) :
    ∃ polls, (w.wait handle s).2.sent = s.sent ++ polls ∧ ∀ q ∈ polls, w.IsPoll q := by
  obtain ⟨polls, hsent, hpolls⟩ := w.sent_wait handle s
  refine ⟨polls, hsent, ?_⟩
  intro q hq
  obtain ⟨i, hasked⟩ := hpolls.mem hq
  exact hasked.isPoll

theorem wait?_polls {s : Session} {o : Except Failure Operation × Session}
    (h : w.wait? handle s = some o) :
    ∃ polls, o.2.sent = s.sent ++ polls ∧ ∀ q ∈ polls, w.IsPoll q := by
  obtain ⟨_, rfl⟩ := wait?_eq_some_iff.1 h
  exact w.wait_polls handle s

end Waiter

namespace Lifecycle

variable {σ : Type} {k : Kind σ} {c : Context} {r : Record σ} {s s' : Session} {p : Plan}
  {id : String}

theorem finish_polls {w : Waiter} {answer : Json} {ending : Ending Unit}
    (h : finish w answer s = (ending, s')) :
    ∃ polls, s'.sent = s.sent ++ polls ∧ ∀ q ∈ polls, w.IsPoll q := by
  have heffect := finish_effect w answer s
  rw [h] at heffect
  cases heffect with
  | unreadable => exact ⟨[], by simp⟩
  | overflowed => exact ⟨[], by simp⟩
  | failed _ hwait => exact Waiter.wait?_polls hwait
  | finished _ hwait => exact Waiter.wait?_polls hwait

theorem sent_hydrate (k : Kind σ) (c : Context) (id : String) (r : Record σ) (s : Session) :
    (hydrate k c id r s).session.sent = s.sent ∨ ∃ identity path, Locates k id identity path ∧
      (hydrate k c id r s).session.sent = s.sent ++ [⟨lookUp c path, s.now⟩] := by
  have hread : (hydrate k c id r s).session.sent = (read k c ⟨some id, r.state⟩
      (s.note .info ("Finished creating " ++ k.name ++ " " ++ Text.quoted id))).session.sent := by
    unfold hydrate
    dsimp only
    split <;> rfl
  rw [hread]
  by_cases hl : ∃ identity path, Locates k id identity path
  · obtain ⟨identity, path, hl⟩ := hl
    exact Or.inr ⟨identity, path, hl, read_sent rfl hl⟩
  · exact Or.inl (read_sent_of_unlocated rfl fun identity path h => hl ⟨identity, path, h⟩)

def insertion (c : Context) (p : Plan) (s : Session) : Sent :=
  ⟨⟨.post, withRequestId (c.url p.path) s.draw.1, some p.payload.json⟩, s.now⟩

theorem sent_posted (c : Context) (p : Plan) (s : Session) :
    (posted c p s).2.sent = s.sent ++ [insertion c p s] :=
  s.draw.2.sent_send _

theorem posted_polls {answer : Json} {ending : Ending Unit} {s'' : Session}
    (hpost : posted c p s = (.ok answer, s'))
    (hfinish : finish (creation k c p) answer s' = (ending, s'')) :
    ∃ polls, (∀ q ∈ polls, (creation k c p).IsPoll q) ∧
      s''.sent = s.sent ++ insertion c p s :: polls := by
  have hsent := sent_posted c p s
  rw [hpost] at hsent
  obtain ⟨polls, hpolls, hall⟩ := finish_polls hfinish
  exact ⟨polls, hall, by rw [hpolls, hsent, List.append_assoc, List.singleton_append]⟩

theorem create_sends (hplan : plan k c r.state = .ok p) :
    ∃ polls, (∀ q ∈ polls, (creation k c p).IsPoll q) ∧
      ((create k c r s).session.sent = s.sent ++ insertion c p s :: polls ∨
        ∃ identity path s'', Locates k p.id identity path ∧ Accomplished k c r s p.id s'' ∧
          s''.sent = s.sent ++ insertion c p s :: polls ∧
          (create k c r s).session.sent = s''.sent ++ [⟨lookUp c path, s''.now⟩]) := by
  have same : ∀ {p'}, plan k c r.state = .ok p' → p = p' := by
    intro p' hplan'
    rwa [hplan, Except.ok.injEq] at hplan'
  have heffect := create_effect k c r s
  generalize create k c r s = o at heffect
  cases heffect with
  | unplanned hfailed =>
      rw [hplan] at hfailed
      cases hfailed
  | refused hplan' hpost =>
      obtain rfl := same hplan'
      have hsent := sent_posted c p s
      rw [hpost] at hsent
      exact ⟨[], nofun, Or.inl hsent⟩
  | overflowed hplan' hpost hfinish =>
      obtain rfl := same hplan'
      obtain ⟨polls, hall, hsent⟩ := posted_polls hpost hfinish
      exact ⟨polls, hall, Or.inl hsent⟩
  | unfinished hplan' hpost hfinish =>
      obtain rfl := same hplan'
      obtain ⟨polls, hall, hsent⟩ := posted_polls hpost hfinish
      exact ⟨polls, hall, Or.inl hsent⟩
  | @finished _ _ _ s'' hplan' hpost hfinish =>
      obtain rfl := same hplan'
      obtain ⟨polls, hall, hsent⟩ := posted_polls hpost hfinish
      refine ⟨polls, hall, ?_⟩
      rcases sent_hydrate k c p.id r s'' with hnone | ⟨identity, path, hl, hlast⟩
      · exact Or.inl (hnone.trans hsent)
      · exact Or.inr ⟨identity, path, s'', hl, accomplished_of_finish hplan hpost hfinish, hsent,
          hlast⟩

theorem locates_of_plan (hk : k.Regular) {identity : Fields} {path : String} {state : σ}
    (hplan : plan k c state = .ok p) (hl : Locates k p.id identity path) :
    identity = p.identity := by
  have hparse := (rendered_of_plan hk hplan).parse hk
  rw [hl.1] at hparse
  split at hparse
  · exact Option.some.inj hparse
  · cases hparse

/-- A create that cannot be planned sends nothing. Any other sends one insert, then polls of its
operation, then at most one look at the object, below the URL of the insert, after the operation
was reported as done. -/
theorem create_requests (f : Family) (c : Context) (r : Record f.State) (s : Session) :
    (∀ e, plan f.kind c r.state = .error e → (create f.kind c r s).session.sent = s.sent) ∧
    ∀ p, plan f.kind c r.state = .ok p →
      ∃ project name polls object, Keyed.get? "project" p.identity = some project ∧
        p.payload.get? "name" = some (.str name) ∧
        (create f.kind c r s).session.sent = s.sent ++ insertion c p s :: (polls ++ object) ∧
        (∀ q ∈ polls, ∃ op : Operation, op.phase = .polling ∧ op.name.isEmpty = false ∧
          q.request = ⟨.get, c.endpoint ++
            ("projects/" ++ project ++ "/" ++ op.place ++ "/operations/" ++ op.name), none⟩) ∧
        (object = [] ∨ ∃ s'', Accomplished f.kind c r s p.id s'' ∧
          s''.sent = s.sent ++ insertion c p s :: polls ∧
          object = [⟨⟨.get, c.url p.path ++ "/" ++ name, none⟩, s''.now⟩]) := by
  have hk := f.kind_nested
  constructor
  · intro e hplan
    simp only [create, hplan]
  · intro p hplan
    obtain ⟨hidentity, hexpand, _, hcollection⟩ := plan_eq_ok_iff.1 hplan
    obtain ⟨project, name, hproject, hname, hsent⟩ := hk.named hidentity hexpand
    have hpolled : (creation f.kind c p).project = project := by
      simp [creation, waiter, hproject]
    obtain ⟨polls, hall, hlast⟩ := create_sends (s := s) hplan
    simp only [Waiter.IsPoll, hpolled] at hall
    rcases hlast with hnone | ⟨identity, path, s'', hl, haccomplished, hbefore, hlast⟩
    · exact ⟨project, name, polls, [], hproject, hsent, by rwa [List.append_nil], hall, Or.inl rfl⟩
    · obtain rfl := locates_of_plan f.kind_regular hplan hl
      have hurl := hk.url_eq c hname hcollection hl.2
      refine ⟨project, name, polls, _, hproject, hsent, ?_, hall, Or.inr ⟨s'', haccomplished,
        hbefore, rfl⟩⟩
      rw [hlast, hbefore, lookUp, hurl, List.append_assoc]
      rfl

namespace Reserving

def context : Context := .ofDefaults ⟨some "p1", some "us-east1", none⟩

def record : Record Family.address.State := ⟨none, { Address.blank with name := "web" }⟩

def planned : Plan :=
  ⟨[("name", "web"), ("project", "p1"), ("region", "us-east1")], ⟨[("name", .str "web")]⟩,
    "p1/us-east1/web", "projects/p1/regions/us-east1/addresses"⟩

def progress (status : String) : Json :=
  .obj [("name", .str "op-1"), ("region", .str "us-east1"), ("status", .str status)]

def session : Session :=
  .start [.ok 0 (progress "RUNNING"), .ok 5 (progress "DONE"), .ok 0 (.obj [])] fun n => ⟨n⟩

def place : String := "https://compute.googleapis.com/compute/v1/projects/p1/regions/us-east1/"

theorem requests_of_reserving :
    plan Family.address.kind context record.state = .ok planned ∧
    (create Family.address.kind context record session).session.sent.map
        (fun q => (q.request.method, q.request.url, q.moment)) =
      [(.post, place ++ "addresses?requestId=00000000-0000-4000-8000-000000000000", 0),
        (.get, place ++ "operations/op-1", Duration.ofSecs 2),
        (.get, place ++ "addresses/web", Duration.ofSecs 2 + 5)] ∧
    ∃ polls object, (create Family.address.kind context record session).session.sent =
      session.sent ++ insertion context planned session :: (polls ++ object) ∧
      object.length ≤ 1 := by
  have hplan : plan Family.address.kind context record.state = .ok planned := by rfl
  obtain ⟨_, _, polls, object, _, _, hsent, _, hobject⟩ :=
    (create_requests .address context record session).2 planned hplan
  refine ⟨hplan, by decide +kernel, polls, object, hsent, ?_⟩
  rcases hobject with rfl | ⟨_, _, _, rfl⟩
  · exact Nat.zero_le _
  · exact Nat.le_refl _

end Reserving

end Lifecycle

end Reconcile
