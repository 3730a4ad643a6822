import Reconcile.Lifecycle
import Reconcile.Proofs.Except
import Reconcile.Proofs.Waiting.Deadline

namespace Reconcile

namespace Session

theorem send_note (s : Session) (level : Level) (text : String) (request : Request) :
    ((s.note level text).send request).1 = (s.send request).1 := by
  simp only [send, note, record]
  cases s.replies <;> rfl

theorem sent_send (s : Session) (request : Request) :
    (s.send request).2.sent = s.sent ++ [⟨request, s.now⟩] := by
  simp only [send, record, pass]
  cases s.replies <;> rfl

end Session

def Ending.isReturned {α : Type} : Ending α → Bool
  | .returned _ => true
  | .overflowed => false

theorem Ending.ne_overflowed {α : Type} {ending : Ending α} (h : ending.isReturned = true) :
    ending ≠ .overflowed := by
  rintro rfl
  cases h

namespace Lifecycle

variable {σ : Type} {k : Kind σ} {c : Context} {r : Record σ} {s : Session}

def lookUp (c : Context) (path : String) : Request := ⟨.get, c.url path, none⟩

theorem plan_eq_ok_iff {state : σ} {p : Plan} :
    plan k c state = .ok p ↔ k.identity state c = .ok p.identity ∧
      k.expand state c = .ok p.payload ∧ k.id.render p.identity = .ok p.id ∧
      k.collectionPath.render p.identity = .ok p.path := by
  obtain ⟨identity, payload, id, path⟩ := p
  simp only [plan, bind_eq_ok_iff, pure, Except.pure, Except.ok.injEq, Plan.mk.injEq]
  constructor
  · rintro ⟨_, hidentity, _, hpayload, _, hid, _, hpath, rfl, rfl, rfl, rfl⟩
    exact ⟨hidentity, hpayload, hid, hpath⟩
  · rintro ⟨hidentity, hpayload, hid, hpath⟩
    exact ⟨_, hidentity, _, hpayload, _, hid, _, hpath, rfl, rfl, rfl, rfl⟩

def posted (c : Context) (p : Plan) (s : Session) : Except Failure Json × Session :=
  s.draw.2.send ⟨.post, withRequestId (c.url p.path) s.draw.1, some p.payload.json⟩

def removed (c : Context) (path : String) (s : Session) : Except Failure Json × Session :=
  s.draw.2.send ⟨.delete, withRequestId (c.url path) s.draw.1, none⟩

def creation (k : Kind σ) (c : Context) (p : Plan) : Waiter :=
  waiter k c p.identity "Creating" k.createTimeout

def deletion (k : Kind σ) (c : Context) (identity : Fields) : Waiter :=
  waiter k c identity "Deleting" k.deleteTimeout

def Locates (k : Kind σ) (id : String) (identity : Fields) (path : String) : Prop :=
  k.id.parse id = some identity ∧ k.selfPath.render identity = .ok path

theorem Locates.unique {id path path' : String} {identity identity' : Fields}
    (h : Locates k id identity path) (h' : Locates k id identity' path') :
    identity = identity' ∧ path = path' := by
  obtain ⟨hparse, hrender⟩ := h
  obtain ⟨hparse', hrender'⟩ := h'
  rw [hparse, Option.some.injEq] at hparse'
  subst hparse'
  rw [hrender, Except.ok.injEq] at hrender'
  exact ⟨rfl, hrender'⟩

def Found (k : Kind σ) (c : Context) (id : String) (s : Session) (state : σ) : Prop :=
  ∃ identity path remote, Locates k id identity path ∧
    (s.send (lookUp c path)).1 = .ok remote ∧ state = k.flatten remote identity

def Gone (k : Kind σ) (c : Context) (id : String) (s : Session) : Prop :=
  ∃ identity path url, Locates k id identity path ∧
    (s.send (lookUp c path)).1 = .error (.notFound url)

theorem Found.unique {id : String} {state state' : σ} (h : Found k c id s state)
    (h' : Found k c id s state') : state = state' := by
  obtain ⟨identity, path, remote, hl, hsend, rfl⟩ := h
  obtain ⟨identity', path', remote', hl', hsend', rfl⟩ := h'
  obtain ⟨rfl, rfl⟩ := hl.unique hl'
  rw [hsend, Except.ok.injEq] at hsend'
  rw [hsend']

theorem Found.not_gone {id : String} {state : σ} (h : Found k c id s state) :
    ¬ Gone k c id s := by
  rintro ⟨identity', path', url, hl', hsend'⟩
  obtain ⟨identity, path, remote, hl, hsend, _⟩ := h
  obtain ⟨rfl, rfl⟩ := hl.unique hl'
  rw [hsend] at hsend'
  cases hsend'

theorem found_note_iff {id text : String} {level : Level} {state : σ} :
    Found k c id (s.note level text) state ↔ Found k c id s state := by
  simp only [Found, Session.send_note]

theorem gone_note_iff {id text : String} {level : Level} :
    Gone k c id (s.note level text) ↔ Gone k c id s := by
  simp only [Gone, Session.send_note]

theorem read_of_no_id (hid : r.id = none) :
    read k c r s = ⟨.returned (.error (.invalid "id" (.noId k.name))), r, s⟩ := by
  simp only [read, identityOf, hid]

theorem delete_of_no_id (hid : r.id = none) :
    delete k c r s = ⟨.returned (.error (.invalid "id" (.noId k.name))), r, s⟩ := by
  simp only [delete, identityOf, hid]

inductive ReadEffect (k : Kind σ) (c : Context) (r : Record σ) (s : Session) (id : String) :
    Outcome σ Presence → Prop
  | foreign : k.id.parse id = none →
      ReadEffect k c r s id
        ⟨.returned (.error (.invalid "id" (.foreignId id k.name k.id.text))), r, s⟩
  | pathless {identity : Fields} {e : Failure} :
      k.id.parse id = some identity → k.selfPath.render identity = .error e →
      ReadEffect k c r s id ⟨.returned (.error e), r, s⟩
  | found {identity : Fields} {path : String} {remote : Json} {s' : Session} :
      Locates k id identity path → s.send (lookUp c path) = (.ok remote, s') →
      ReadEffect k c r s id
        ⟨.returned (.ok .present), ⟨some id, k.flatten remote identity⟩, s'⟩
  | gone {identity : Fields} {path url : String} {s' : Session} :
      Locates k id identity path → s.send (lookUp c path) = (.error (.notFound url), s') →
      ReadEffect k c r s id
        ⟨.returned (.ok .absent), ⟨none, r.state⟩,
          s'.note .warn ("Removing " ++ k.name ++ " " ++ Text.quoted id ++ " because it's gone")⟩
  | failed {identity : Fields} {path : String} {e : Failure} {s' : Session} :
      Locates k id identity path → s.send (lookUp c path) = (.error e, s') →
      e.isNotFound = false → ReadEffect k c r s id ⟨.returned (.error e), r, s'⟩

theorem read_effect {id : String} (hid : r.id = some id) :
    ReadEffect k c r s id (read k c r s) := by
  unfold read identityOf
  simp only [hid]
  cases hparse : k.id.parse id with
  | none => exact .foreign hparse
  | some identity =>
      cases hrender : k.selfPath.render identity with
      | error e => simpa only [hrender] using .pathless hparse hrender
      | ok path =>
          simp only [hrender]
          cases hsend : s.send ⟨.get, c.url path, none⟩ with
          | mk answer s' =>
              cases answer with
              | ok remote => exact .found ⟨hparse, hrender⟩ hsend
              | error e =>
                  cases hgone : e.isNotFound with
                  | false =>
                      simpa only [hgone] using .failed ⟨hparse, hrender⟩ hsend hgone
                  | true =>
                      obtain ⟨url, rfl⟩ := Failure.isNotFound_iff.1 hgone
                      exact .gone ⟨hparse, hrender⟩ hsend

theorem read_sent {id path : String} {identity : Fields} (hid : r.id = some id)
    (hl : Locates k id identity path) :
    (read k c r s).session.sent = s.sent ++ [⟨lookUp c path, s.now⟩] := by
  have hsent := s.sent_send (lookUp c path)
  have heffect := read_effect (k := k) (c := c) (s := s) hid
  generalize read k c r s = o at heffect
  cases heffect with
  | foreign hparse =>
      rw [hl.1] at hparse
      cases hparse
  | pathless hparse hrender =>
      rw [hl.1, Option.some.injEq] at hparse
      rw [← hparse, hl.2] at hrender
      cases hrender
  | found hl' hsend =>
      obtain ⟨rfl, rfl⟩ := hl.unique hl'
      rwa [hsend] at hsent
  | gone hl' hsend =>
      obtain ⟨rfl, rfl⟩ := hl.unique hl'
      rwa [hsend] at hsent
  | failed hl' hsend _ =>
      obtain ⟨rfl, rfl⟩ := hl.unique hl'
      rwa [hsend] at hsent

theorem read_sent_of_unlocated {id : String} (hid : r.id = some id)
    (h : ∀ identity path, ¬ Locates k id identity path) :
    (read k c r s).session.sent = s.sent := by
  have heffect := read_effect (k := k) (c := c) (s := s) hid
  generalize read k c r s = o at heffect
  cases heffect with
  | foreign => rfl
  | pathless => rfl
  | found hl => exact absurd hl (h _ _)
  | gone hl => exact absurd hl (h _ _)
  | failed hl => exact absurd hl (h _ _)

theorem unseen {id : String}
    (h : ∀ identity path, Locates k id identity path →
      ∃ e, (s.send (lookUp c path)).1 = .error e ∧ e.isNotFound = false) :
    (∀ state, ¬ Found k c id s state) ∧ ¬ Gone k c id s := by
  constructor
  · rintro state ⟨identity, path, remote, hl, hsend, _⟩
    obtain ⟨e, he, _⟩ := h identity path hl
    rw [hsend] at he
    cases he
  · rintro ⟨identity, path, url, hl, hsend⟩
    obtain ⟨e, he, hgone⟩ := h identity path hl
    rw [hsend, Except.error.injEq] at he
    subst he
    cases hgone

theorem read_outcome {id : String} (hid : r.id = some id) :
    (∃ state, Found k c id s state ∧ (read k c r s).ending = .returned (.ok .present) ∧
      (read k c r s).record = ⟨some id, state⟩) ∨
    (Gone k c id s ∧ (read k c r s).ending = .returned (.ok .absent) ∧
      (read k c r s).record = ⟨none, r.state⟩) ∨
    ((∀ state, ¬ Found k c id s state) ∧ ¬ Gone k c id s ∧
      ∃ e, (read k c r s).ending = .returned (.error e) ∧ (read k c r s).record = r) := by
  have heffect := read_effect (k := k) (c := c) (s := s) hid
  generalize read k c r s = o at heffect
  cases heffect with
  | foreign hparse =>
      have hunseen : (∀ state, ¬ Found k c id s state) ∧ ¬ Gone k c id s := by
        apply unseen
        rintro identity path ⟨hparse', _⟩
        rw [hparse] at hparse'
        cases hparse'
      exact Or.inr (Or.inr ⟨hunseen.1, hunseen.2, _, rfl, rfl⟩)
  | pathless hparse hrender =>
      have hunseen : (∀ state, ¬ Found k c id s state) ∧ ¬ Gone k c id s := by
        apply unseen
        rintro identity path ⟨hparse', hrender'⟩
        rw [hparse, Option.some.injEq] at hparse'
        subst hparse'
        rw [hrender] at hrender'
        cases hrender'
      exact Or.inr (Or.inr ⟨hunseen.1, hunseen.2, _, rfl, rfl⟩)
  | found hl hsend => exact Or.inl ⟨_, ⟨_, _, _, hl, by rw [hsend], rfl⟩, rfl, rfl⟩
  | gone hl hsend => exact Or.inr (Or.inl ⟨⟨_, _, _, hl, by rw [hsend]⟩, rfl, rfl⟩)
  | failed hl hsend hgone =>
      have hunseen : (∀ state, ¬ Found k c id s state) ∧ ¬ Gone k c id s := by
        apply unseen
        intro identity path hl'
        obtain ⟨rfl, rfl⟩ := hl.unique hl'
        exact ⟨_, by rw [hsend], hgone⟩
      exact Or.inr (Or.inr ⟨hunseen.1, hunseen.2, _, rfl, rfl⟩)

theorem hydrate_outcome (k : Kind σ) (c : Context) (id : String) (r : Record σ) (s : Session) :
    (∃ state, Found k c id s state ∧ (hydrate k c id r s).ending = .returned (.ok id) ∧
      (hydrate k c id r s).record = ⟨some id, state⟩) ∨
    (Gone k c id s ∧ (hydrate k c id r s).ending = .returned (.ok id) ∧
      (hydrate k c id r s).record = ⟨none, r.state⟩) ∨
    ((∀ state, ¬ Found k c id s state) ∧ ¬ Gone k c id s ∧
      ∃ e, (hydrate k c id r s).ending = .returned (.error e) ∧
        (hydrate k c id r s).record = ⟨some id, r.state⟩) := by
  have hread := read_outcome (k := k) (c := c) (r := ⟨some id, r.state⟩)
    (s := s.note .info ("Finished creating " ++ k.name ++ " " ++ Text.quoted id)) rfl
  simp only [found_note_iff, gone_note_iff] at hread
  unfold hydrate
  rcases hread with ⟨state, hfound, hending, hrecord⟩ | ⟨hgone, hending, hrecord⟩ |
    ⟨hlost, hgone, e, hending, hrecord⟩
  · exact Or.inl ⟨state, hfound, by simp only [hending], by simp only [hending, hrecord]⟩
  · exact Or.inr (Or.inl ⟨hgone, by simp only [hending], by simp only [hending, hrecord]⟩)
  · exact Or.inr (Or.inr ⟨hlost, hgone, e, by simp only [hending], by simp only [hending, hrecord]⟩)

inductive FinishEffect (w : Waiter) (answer : Json) (s : Session) : Ending Unit × Session → Prop
  | unreadable {e : Failure} :
      Operation.ofAnswer answer = .error e → FinishEffect w answer s (.returned (.error e), s)
  | overflowed {op : Operation} :
      Operation.ofAnswer answer = .ok op → w.wait? op s = none →
      FinishEffect w answer s (.overflowed, s)
  | failed {op : Operation} {e : Failure} {s' : Session} :
      Operation.ofAnswer answer = .ok op → w.wait? op s = some (.error e, s') →
      FinishEffect w answer s (.returned (.error e), s')
  | finished {op done : Operation} {s' : Session} :
      Operation.ofAnswer answer = .ok op → w.wait? op s = some (.ok done, s') →
      FinishEffect w answer s (.returned (.ok ()), s')

theorem finish_effect (w : Waiter) (answer : Json) (s : Session) :
    FinishEffect w answer s (finish w answer s) := by
  unfold finish
  cases hop : Operation.ofAnswer answer with
  | error e => exact .unreadable hop
  | ok op =>
      cases hwait : w.wait? op s with
      | none => simpa only [hwait] using .overflowed hop hwait
      | some o =>
          obtain ⟨result, s'⟩ := o
          cases result with
          | error e => simpa only [hwait] using .failed hop hwait
          | ok done => simpa only [hwait] using .finished hop hwait

theorem finish_of_unreadable {w : Waiter} {answer : Json} {e : Failure}
    (hop : Operation.ofAnswer answer = .error e) :
    finish w answer s = (.returned (.error e), s) := by
  simp only [finish, hop]

theorem finish_of_wait {w : Waiter} {answer : Json} {op : Operation}
    {result : Except Failure Operation} {s' : Session}
    (hop : Operation.ofAnswer answer = .ok op) (hwait : w.wait op s = (result, s')) :
    finish w answer s = (.overflowed, s) ∨
      finish w answer s = (.returned (result.map fun _ => ()), s') := by
  by_cases hclock : s.now + w.timeout < Waiter.lastMoment
  · right
    simp only [finish, hop, Waiter.wait?, hclock, if_true, hwait]
  · left
    simp only [finish, hop, Waiter.wait?, hclock, if_false]

inductive CreateEffect (k : Kind σ) (c : Context) (r : Record σ) (s : Session) :
    Outcome σ String → Prop
  | unplanned {e : Failure} :
      plan k c r.state = .error e → CreateEffect k c r s ⟨.returned (.error e), r, s⟩
  | refused {p : Plan} {e : Failure} {s' : Session} :
      plan k c r.state = .ok p → posted c p s = (.error e, s') →
      CreateEffect k c r s ⟨.returned (.error e), r,
        s'.note .error ("Error creating " ++ k.name ++ " " ++ Text.quoted p.id ++ ": " ++
          e.message)⟩
  | overflowed {p : Plan} {answer : Json} {s' s'' : Session} :
      plan k c r.state = .ok p → posted c p s = (.ok answer, s') →
      finish (creation k c p) answer s' = (.overflowed, s'') →
      CreateEffect k c r s ⟨.overflowed, ⟨some p.id, r.state⟩, s''⟩
  | unfinished {p : Plan} {answer : Json} {e : Failure} {s' s'' : Session} :
      plan k c r.state = .ok p → posted c p s = (.ok answer, s') →
      finish (creation k c p) answer s' = (.returned (.error e), s'') →
      CreateEffect k c r s ⟨.returned (.error e), ⟨none, r.state⟩, s''⟩
  | finished {p : Plan} {answer : Json} {s' s'' : Session} :
      plan k c r.state = .ok p → posted c p s = (.ok answer, s') →
      finish (creation k c p) answer s' = (.returned (.ok ()), s'') →
      CreateEffect k c r s (hydrate k c p.id r s'')

theorem create_of_plan {p : Plan} (h : plan k c r.state = .ok p) :
    create k c r s =
      match posted c p s with
      | (.error e, s) =>
          ⟨.returned (.error e), r,
            s.note .error ("Error creating " ++ k.name ++ " " ++ Text.quoted p.id ++ ": " ++
              e.message)⟩
      | (.ok answer, s) =>
          match finish (creation k c p) answer s with
          | (.overflowed, s) => ⟨.overflowed, { r with id := some p.id }, s⟩
          | (.returned (.error e), s) => ⟨.returned (.error e), { r with id := none }, s⟩
          | (.returned (.ok ()), s) => hydrate k c p.id r s := by
  simp only [create, h]
  rfl

theorem create_effect (k : Kind σ) (c : Context) (r : Record σ) (s : Session) :
    CreateEffect k c r s (create k c r s) := by
  cases hplan : plan k c r.state with
  | error e => simpa only [create, hplan] using .unplanned hplan
  | ok p =>
      rw [create_of_plan hplan]
      cases hpost : posted c p s with
      | mk answer s' =>
          cases answer with
          | error e => exact .refused hplan hpost
          | ok answer =>
              simp only
              cases hfinish : finish (creation k c p) answer s' with
              | mk ending s'' =>
                  match ending, hfinish with
                  | .overflowed, hfinish => exact .overflowed hplan hpost hfinish
                  | .returned (.error e), hfinish => exact .unfinished hplan hpost hfinish
                  | .returned (.ok ()), hfinish => exact .finished hplan hpost hfinish

inductive DeleteEffect (k : Kind σ) (c : Context) (r : Record σ) (s : Session) (id : String) :
    Outcome σ Unit → Prop
  | foreign : k.id.parse id = none →
      DeleteEffect k c r s id
        ⟨.returned (.error (.invalid "id" (.foreignId id k.name k.id.text))), r, s⟩
  | pathless {identity : Fields} {e : Failure} :
      k.id.parse id = some identity → k.selfPath.render identity = .error e →
      DeleteEffect k c r s id ⟨.returned (.error e), r, s⟩
  | gone {identity : Fields} {path url : String} {s' : Session} :
      Locates k id identity path → removed c path s = (.error (.notFound url), s') →
      DeleteEffect k c r s id ⟨.returned (.ok ()), ⟨none, r.state⟩,
        s'.note .info (k.name ++ " " ++ Text.quoted id ++ " was already deleted")⟩
  | refused {identity : Fields} {path : String} {e : Failure} {s' : Session} :
      Locates k id identity path → removed c path s = (.error e, s') → e.isNotFound = false →
      DeleteEffect k c r s id ⟨.returned (.error e), r, s'⟩
  | overflowed {identity : Fields} {path : String} {answer : Json} {s' s'' : Session} :
      Locates k id identity path → removed c path s = (.ok answer, s') →
      finish (deletion k c identity) answer s' = (.overflowed, s'') →
      DeleteEffect k c r s id ⟨.overflowed, r, s''⟩
  | unfinished {identity : Fields} {path : String} {answer : Json} {e : Failure}
      {s' s'' : Session} :
      Locates k id identity path → removed c path s = (.ok answer, s') →
      finish (deletion k c identity) answer s' = (.returned (.error e), s'') →
      DeleteEffect k c r s id ⟨.returned (.error e), r, s''⟩
  | finished {identity : Fields} {path : String} {answer : Json} {s' s'' : Session} :
      Locates k id identity path → removed c path s = (.ok answer, s') →
      finish (deletion k c identity) answer s' = (.returned (.ok ()), s'') →
      DeleteEffect k c r s id ⟨.returned (.ok ()), ⟨none, r.state⟩,
        s''.note .info ("Finished deleting " ++ k.name ++ " " ++ Text.quoted id)⟩

theorem delete_of_locates {id path : String} {identity : Fields} (hid : r.id = some id)
    (h : Locates k id identity path) :
    delete k c r s =
      match removed c path s with
      | (.error e, s) =>
          if e.isNotFound then
            ⟨.returned (.ok ()), { r with id := none },
              s.note .info (k.name ++ " " ++ Text.quoted id ++ " was already deleted")⟩
          else ⟨.returned (.error e), r, s⟩
      | (.ok answer, s) =>
          match finish (deletion k c identity) answer s with
          | (.overflowed, s) => ⟨.overflowed, r, s⟩
          | (.returned (.error e), s) => ⟨.returned (.error e), r, s⟩
          | (.returned (.ok ()), s) =>
              ⟨.returned (.ok ()), { r with id := none },
                s.note .info ("Finished deleting " ++ k.name ++ " " ++ Text.quoted id)⟩ := by
  simp only [delete, identityOf, hid, h.1, h.2]
  rfl

theorem delete_effect {id : String} (hid : r.id = some id) :
    DeleteEffect k c r s id (delete k c r s) := by
  cases hparse : k.id.parse id with
  | none => simpa only [delete, identityOf, hid, hparse] using .foreign hparse
  | some identity =>
      cases hrender : k.selfPath.render identity with
      | error e =>
          simpa only [delete, identityOf, hid, hparse, hrender] using .pathless hparse hrender
      | ok path =>
          have hl : Locates k id identity path := ⟨hparse, hrender⟩
          rw [delete_of_locates hid hl]
          cases hremoved : removed c path s with
          | mk answer s' =>
              cases answer with
              | error e =>
                  cases hgone : e.isNotFound with
                  | false => simpa only [hgone] using .refused hl hremoved hgone
                  | true =>
                      obtain ⟨url, rfl⟩ := Failure.isNotFound_iff.1 hgone
                      exact .gone hl hremoved
              | ok answer =>
                  simp only
                  cases hfinish : finish (deletion k c identity) answer s' with
                  | mk ending s'' =>
                      match ending, hfinish with
                      | .overflowed, hfinish => exact .overflowed hl hremoved hfinish
                      | .returned (.error e), hfinish => exact .unfinished hl hremoved hfinish
                      | .returned (.ok ()), hfinish => exact .finished hl hremoved hfinish

end Lifecycle

end Reconcile
