import Reconcile.Network.Route
import Reconcile.Proofs.Lifecycle.Effect

namespace Reconcile.Lifecycle

variable {σ : Type} {k : Kind σ} {c : Context} {r : Record σ} {s : Session} {id : String}

def AlreadyGone (k : Kind σ) (c : Context) (id : String) (s : Session) : Prop :=
  ∃ identity path url, Locates k id identity path ∧ (removed c path s).1 = .error (.notFound url)

def Awaited (k : Kind σ) (c : Context) (id : String) (s : Session)
    (result : Except Failure Operation) : Prop :=
  ∃ identity path answer s' op, Locates k id identity path ∧
    removed c path s = (.ok answer, s') ∧ Operation.ofAnswer answer = .ok op ∧
    ((deletion k c identity).wait op s').1 = result

theorem sent_removed (c : Context) (path : String) (s : Session) :
    (removed c path s).2.sent =
      s.sent ++ [⟨⟨.delete, withRequestId (c.url path) s.draw.1, none⟩, s.now⟩] := by
  simp only [removed, Session.sent_send]
  rfl

theorem delete_outcome (hid : r.id = some id)
    (hreturns : (delete k c r s).ending ≠ .overflowed) :
    ((delete k c r s).ending = .returned (.ok ()) ∧
      (delete k c r s).record = ⟨none, r.state⟩ ∧
      (AlreadyGone k c id s ∨ ∃ done, Awaited k c id s (.ok done))) ∨
    ∃ e, (delete k c r s).ending = .returned (.error e) ∧ (delete k c r s).record = r := by
  have heffect := delete_effect (k := k) (c := c) (s := s) hid
  generalize delete k c r s = o at heffect hreturns
  cases heffect with
  | foreign => exact Or.inr ⟨_, rfl, rfl⟩
  | pathless => exact Or.inr ⟨_, rfl, rfl⟩
  | gone hl hremoved =>
      exact Or.inl ⟨rfl, rfl, Or.inl ⟨_, _, _, hl, congrArg Prod.fst hremoved⟩⟩
  | refused => exact Or.inr ⟨_, rfl, rfl⟩
  | overflowed => exact absurd rfl hreturns
  | unfinished => exact Or.inr ⟨_, rfl, rfl⟩
  | @finished identity path answer s' s'' hl hremoved hfinish =>
      have hdone := finish_effect (deletion k c identity) answer s'
      rw [hfinish] at hdone
      cases hdone with
      | finished hop hwait =>
          obtain ⟨_, hwait⟩ := Waiter.wait?_eq_some_iff.1 hwait
          exact Or.inl ⟨rfl, rfl, Or.inr ⟨_, identity, path, answer, s', _, hl, hremoved, hop,
            congrArg Prod.fst hwait⟩⟩

theorem AlreadyGone.delete (h : AlreadyGone k c id s) (hid : r.id = some id) :
    (delete k c r s).ending = .returned (.ok ()) ∧
    ∃ path, (Lifecycle.delete k c r s).session.sent =
      s.sent ++ [⟨⟨.delete, withRequestId (c.url path) s.draw.1, none⟩, s.now⟩] := by
  obtain ⟨identity, path, url, hl, hremoved⟩ := h
  rw [delete_of_locates hid hl]
  have hsent := sent_removed c path s
  cases hpair : removed c path s with
  | mk answer s' =>
      rw [hpair] at hremoved hsent
      simp only at hremoved hsent
      subst hremoved
      exact ⟨rfl, path, hsent⟩

theorem Awaited.delete {result : Except Failure Operation} (h : Awaited k c id s result)
    (hid : r.id = some id) (hreturns : (delete k c r s).ending ≠ .overflowed) :
    (Lifecycle.delete k c r s).ending = .returned (result.map fun _ => ()) := by
  obtain ⟨identity, path, answer, s', op, hl, hremoved, hop, hresult⟩ := h
  rw [delete_of_locates hid hl, hremoved] at hreturns ⊢
  cases hwait : (deletion k c identity).wait op s' with
  | mk result' s'' =>
      rw [hwait] at hresult
      subst hresult
      rcases finish_of_wait hop hwait with hfinish | hfinish
      · simp only [hfinish] at hreturns
        exact absurd rfl hreturns
      · simp only [hfinish]
        cases result' <;> rfl

theorem delete_ok_iff (hid : r.id = some id) (hreturns : (delete k c r s).ending ≠ .overflowed) :
    (delete k c r s).ending = .returned (.ok ()) ↔ (delete k c r s).record.id = none := by
  rcases delete_outcome hid hreturns with ⟨hending, hrecord, _⟩ | ⟨e, hending, hrecord⟩
  · simp [hending, hrecord]
  · simp [hending, hrecord, hid]

theorem delete_id_eq_none_iff (hid : r.id = some id)
    (hreturns : (delete k c r s).ending ≠ .overflowed) :
    (delete k c r s).record.id = none ↔
      AlreadyGone k c id s ∨ ∃ done, Awaited k c id s (.ok done) := by
  rw [← delete_ok_iff hid hreturns]
  constructor
  · intro hok
    rcases delete_outcome hid hreturns with ⟨_, _, hword⟩ | ⟨e, hending, _⟩
    · exact hword
    · rw [hending] at hok
      cases hok
  · rintro (hgone | ⟨done, hdone⟩)
    · exact (hgone.delete hid).1
    · exact hdone.delete hid hreturns

theorem delete_of_error {e : Failure} (hid : r.id = some id)
    (h : (delete k c r s).ending = .returned (.error e)) : (delete k c r s).record = r := by
  have hreturns : (delete k c r s).ending ≠ .overflowed := by
    rw [h]
    exact nofun
  rcases delete_outcome hid hreturns with ⟨hending, _, _⟩ | ⟨_, _, hrecord⟩
  · rw [h] at hending
    cases hending
  · exact hrecord

theorem delete_state (hid : r.id = some id)
    (hreturns : (delete k c r s).ending ≠ .overflowed) :
    (delete k c r s).record.state = r.state := by
  rcases delete_outcome hid hreturns with ⟨_, hrecord, _⟩ | ⟨_, _, hrecord⟩ <;> rw [hrecord]

theorem read_id_eq_none_iff (hid : r.id = some id) :
    (read k c r s).record.id = none ↔ Gone k c id s := by
  rcases read_outcome (k := k) (c := c) (s := s) hid with ⟨_, hfound, _, hrecord⟩ |
    ⟨hgone, _, hrecord⟩ | ⟨_, hgone, _, _, hrecord⟩
  · simp [hrecord, hfound.not_gone]
  · simp [hrecord, hgone]
  · simp [hrecord, hid, hgone]

theorem read_of_gone (hid : r.id = some id) (h : Gone k c id s) :
    (read k c r s).record = ⟨none, r.state⟩ := by
  rcases read_outcome (k := k) (c := c) (s := s) hid with ⟨_, hfound, _, _⟩ |
    ⟨_, _, hrecord⟩ | ⟨_, hgone, _⟩
  · exact absurd h hfound.not_gone
  · exact hrecord
  · exact absurd h hgone

theorem read_of_found {state : σ} (hid : r.id = some id) (h : Found k c id s state) :
    (read k c r s).record = ⟨some id, state⟩ := by
  rcases read_outcome (k := k) (c := c) (s := s) hid with ⟨state', hfound, _, hrecord⟩ |
    ⟨hgone, _⟩ | ⟨hlost, _⟩
  · rw [h.unique hfound]
    exact hrecord
  · exact absurd hgone h.not_gone
  · exact absurd h (hlost state)

theorem read_of_error {e : Failure} (hid : r.id = some id)
    (h : (read k c r s).ending = .returned (.error e)) : (read k c r s).record = r := by
  rcases read_outcome (k := k) (c := c) (s := s) hid with ⟨_, _, hending, _⟩ |
    ⟨_, hending, _⟩ | ⟨_, _, _, _, hrecord⟩
  · rw [h] at hending
    cases hending
  · rw [h] at hending
    cases hending
  · exact hrecord

/-- A record loses its id only on the word of the server. A delete clears it exactly when the
removal finds nothing to remove or its operation is reported as done; a read clears it exactly when
the server says that the object is gone. An operation that vanishes is no such word. -/
theorem id_cleared_on_word (k : Kind σ) (c : Context) (r : Record σ) (s : Session) (id : String)
    (hid : r.id = some id) :
    ((delete k c r s).ending ≠ .overflowed →
      ((delete k c r s).ending = .returned (.ok ()) ↔ (delete k c r s).record.id = none) ∧
      ((delete k c r s).record.id = none ↔
        AlreadyGone k c id s ∨ ∃ done, Awaited k c id s (.ok done)) ∧
      (AlreadyGone k c id s → ∃ path, (delete k c r s).session.sent =
        s.sent ++ [⟨⟨.delete, withRequestId (c.url path) s.draw.1, none⟩, s.now⟩]) ∧
      (∀ e, Awaited k c id s (.error e) → (delete k c r s).ending = .returned (.error e)) ∧
      (∀ e, (delete k c r s).ending = .returned (.error e) → (delete k c r s).record = r) ∧
      (delete k c r s).record.state = r.state) ∧
    ((read k c r s).record.id = none ↔ Gone k c id s) ∧
    (Gone k c id s → (read k c r s).record.state = r.state) ∧
    (∀ state, Found k c id s state → (read k c r s).record = ⟨some id, state⟩) ∧
    (∀ e, (read k c r s).ending = .returned (.error e) → (read k c r s).record = r) ∧
    ∀ (w : Waiter) (op : Operation) (s : Session) (e : Failure),
      (w.wait op s).1 = .error e → e.kind ≠ .notFound := by
  refine ⟨?_, read_id_eq_none_iff hid, ?_, fun state => read_of_found hid,
    fun e => read_of_error hid, ?_⟩
  · intro hreturns
    exact ⟨delete_ok_iff hid hreturns, delete_id_eq_none_iff hid hreturns,
      fun hgone => (hgone.delete hid).2, fun e hlost => hlost.delete hid hreturns,
      fun e => delete_of_error hid, delete_state hid hreturns⟩
  · intro hgone
    rw [read_of_gone hid hgone]
  · intro w op s e hwait hkind
    have hnot := Waiter.wait_error_isNotFound hwait
    simp [Failure.isNotFound, hkind] at hnot

namespace LostRemoval

def accepted : Json := .obj [("name", .str "op-2"), ("status", .str "PENDING")]

def handle : Operation := { Operation.blank with name := "op-2" }

def context : Context := .ofDefaults ⟨none, none, none⟩

def record : Record Route := ⟨some "p1/r1", { Route.blank with name := "r1" }⟩

def session : Session := .start [.ok 0 accepted, .missing 0] fun n => ⟨n⟩

def afterRemoval : Session := (removed context "projects/p1/global/routes/r1" session).2

theorem lost_removal_keeps_id :
    record.id = some "p1/r1" ∧ (delete Route.kind context record session).record = record := by
  have hlaw := id_cleared_on_word Route.kind context record session "p1/r1" rfl
  have hreturns : (delete Route.kind context record session).ending ≠ .overflowed :=
    Ending.ne_overflowed (by decide +kernel)
  have hl : Locates Route.kind "p1/r1" [("name", "r1"), ("project", "p1")]
      "projects/p1/global/routes/r1" := ⟨by decide +kernel, by rfl⟩
  have hlost : Awaited Route.kind context "p1/r1" session
      (.error (.transport (some 404) (.vanishedOperation "op-2"))) :=
    ⟨_, _, accepted, afterRemoval, handle, hl, by rfl, by rfl, by rfl⟩
  have hending := (hlaw.1 hreturns).2.2.2.1 _ hlost
  exact ⟨rfl, (hlaw.1 hreturns).2.2.2.2.1 _ hending⟩

end LostRemoval

end Reconcile.Lifecycle
