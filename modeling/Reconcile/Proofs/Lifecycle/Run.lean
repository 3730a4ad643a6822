import Reconcile.Proofs.Lifecycle.Effect
import Reconcile.Proofs.Waiting.Replies

namespace Reconcile

namespace Session

theorem send_cases (s : Session) (request : Request) :
    (s.replies = [] ∧ s.send request = (.error exhausted, s.record request)) ∨
    ∃ reply rest, s.replies = reply :: rest ∧
      s.send request =
        (reply.answer request, { (s.record request).pass reply.delay with replies := rest }) := by
  obtain ⟨now, replies, sent, log, uuids, drawn⟩ := s
  cases replies with
  | nil => exact Or.inl ⟨rfl, rfl⟩
  | cons reply rest => exact Or.inr ⟨reply, rest, rfl, rfl⟩

theorem replies_send (s : Session) {request : Request} {answer : Except Failure Json}
    {s' : Session} (h : s.send request = (answer, s')) : s'.replies <:+ s.replies := by
  rcases s.send_cases request with ⟨_, heq⟩ | ⟨reply, rest, hreplies, heq⟩
  · rw [heq] at h
    cases h
    exact List.suffix_refl _
  · rw [heq] at h
    cases h
    rw [hreplies]
    exact List.suffix_cons reply rest

end Session

namespace Lifecycle

variable {σ : Type} {k : Kind σ} {c : Context} {r : Record σ} {s : Session} {id : String}

theorem create_id (h : (create k c r s).record.id = some id) :
    r.id = some id ∨ ∃ identity, k.identity r.state c = .ok identity ∧
      k.id.render identity = .ok id := by
  have planned : ∀ {p : Plan}, plan k c r.state = .ok p → p.id = id →
      ∃ identity, k.identity r.state c = .ok identity ∧ k.id.render identity = .ok id := by
    rintro p hplan rfl
    obtain ⟨hidentity, _, hid, _⟩ := plan_eq_ok_iff.1 hplan
    exact ⟨p.identity, hidentity, hid⟩
  have heffect := create_effect k c r s
  generalize create k c r s = o at heffect h
  cases heffect with
  | unplanned => exact Or.inl h
  | refused => exact Or.inl h
  | overflowed hplan => exact Or.inr (planned hplan (Option.some.inj h))
  | unfinished => cases h
  | @finished p _ _ s'' hplan =>
      right
      apply planned hplan
      rcases hydrate_outcome k c p.id r s'' with ⟨_, _, _, hrecord⟩ | ⟨_, _, hrecord⟩ |
        ⟨_, _, _, _, hrecord⟩
      · rw [hrecord] at h
        exact Option.some.inj h
      · rw [hrecord] at h
        cases h
      · rw [hrecord] at h
        exact Option.some.inj h

theorem read_id (h : (read k c r s).record.id = some id) : r.id = some id := by
  cases hid : r.id with
  | none => rwa [read_of_no_id hid, hid] at h
  | some id' =>
      rcases read_outcome (k := k) (c := c) (s := s) hid with ⟨_, _, _, hrecord⟩ |
        ⟨_, _, hrecord⟩ | ⟨_, _, _, _, hrecord⟩
      · rwa [hrecord] at h
      · rw [hrecord] at h
        cases h
      · rwa [hrecord, hid] at h

theorem delete_id (h : (delete k c r s).record.id = some id) : r.id = some id := by
  cases hid : r.id with
  | none => rwa [delete_of_no_id hid, hid] at h
  | some id' =>
      have heffect := delete_effect (k := k) (c := c) (s := s) hid
      generalize delete k c r s = o at heffect h
      cases heffect with
      | foreign => rwa [hid] at h
      | pathless => rwa [hid] at h
      | gone => cases h
      | refused => rwa [hid] at h
      | overflowed => rwa [hid] at h
      | unfinished => rwa [hid] at h
      | finished => cases h

theorem adopt_id {importId : String} {r' : Record σ}
    (h : (adopt k c importId s).1 = .ok r') :
    ∃ identity id, r'.id = some id ∧ k.id.render identity = .ok id ∧
      (ImportId.resolve importId k.importPatterns c.defaultFields s).1 = .ok identity := by
  unfold adopt at h
  split at h
  · cases h
  · next identity s' hresolve =>
      split at h
      · cases h
      · next id hid =>
          cases h
          exact ⟨identity, id, rfl, hid, congrArg Prod.fst hresolve⟩

theorem replies_read : (read k c r s).session.replies <:+ s.replies := by
  cases hid : r.id with
  | none => simp [read_of_no_id hid]
  | some id =>
      have heffect := read_effect (k := k) (c := c) (s := s) hid
      generalize read k c r s = o at heffect
      cases heffect with
      | foreign => exact List.suffix_refl _
      | pathless => exact List.suffix_refl _
      | found _ hsend => exact s.replies_send hsend
      | gone _ hsend =>
          have hreplies := s.replies_send hsend
          exact hreplies
      | failed _ hsend => exact s.replies_send hsend

theorem replies_hydrate :
    (hydrate k c id r s).session.replies <:+ s.replies := by
  have hread := replies_read (k := k) (c := c) (r := ⟨some id, r.state⟩)
    (s := s.note .info ("Finished creating " ++ k.name ++ " " ++ Text.quoted id))
  unfold hydrate
  simp only
  split <;> exact hread

theorem continues_wait? {w : Waiter} {op : Operation} {o : Except Failure Operation × Session}
    (h : w.wait? op s = some o) : s.Continues o.2 := by
  obtain ⟨_, rfl⟩ := Waiter.wait?_eq_some_iff.1 h
  exact w.continues_wait op s

theorem continues_finish {w : Waiter} {answer : Json} {ending : Ending Unit} {s' : Session}
    (h : finish w answer s = (ending, s')) : s.Continues s' := by
  have heffect := finish_effect w answer s
  rw [h] at heffect
  cases heffect with
  | unreadable => exact .of_eq rfl rfl
  | overflowed => exact .of_eq rfl rfl
  | failed _ hwait => exact continues_wait? hwait
  | finished _ hwait => exact continues_wait? hwait

theorem replies_create : (create k c r s).session.replies <:+ s.replies := by
  have heffect := create_effect k c r s
  generalize create k c r s = o at heffect
  cases heffect with
  | unplanned => exact List.suffix_refl _
  | refused _ hpost =>
      have hreplies := s.draw.2.replies_send hpost
      exact hreplies
  | overflowed _ hpost hfinish =>
      exact (continues_finish hfinish).replies.trans (s.draw.2.replies_send hpost)
  | unfinished _ hpost hfinish =>
      exact (continues_finish hfinish).replies.trans (s.draw.2.replies_send hpost)
  | finished _ hpost hfinish =>
      have hreplies := (continues_finish hfinish).replies.trans (s.draw.2.replies_send hpost)
      exact replies_hydrate.trans hreplies

theorem replies_delete : (delete k c r s).session.replies <:+ s.replies := by
  cases hid : r.id with
  | none => simp [delete_of_no_id hid]
  | some id =>
      have heffect := delete_effect (k := k) (c := c) (s := s) hid
      generalize delete k c r s = o at heffect
      cases heffect with
      | foreign => exact List.suffix_refl _
      | pathless => exact List.suffix_refl _
      | gone _ hsend =>
          have hreplies := s.draw.2.replies_send hsend
          exact hreplies
      | refused _ hsend => exact s.draw.2.replies_send hsend
      | overflowed _ hsend hfinish =>
          exact (continues_finish hfinish).replies.trans (s.draw.2.replies_send hsend)
      | unfinished _ hsend hfinish =>
          exact (continues_finish hfinish).replies.trans (s.draw.2.replies_send hsend)
      | finished _ hsend hfinish =>
          exact (continues_finish hfinish).replies.trans (s.draw.2.replies_send hsend)

theorem replies_adopt {importId : String} :
    (adopt k c importId s).2.replies = s.replies := by
  have hresolve : (ImportId.resolve importId k.importPatterns c.defaultFields s).2.replies =
      s.replies := by
    rw [ImportId.resolve, ImportId.resolveWith]
    split
    · rfl
    · split <;> rfl
  unfold adopt
  split
  · next heq => rwa [heq] at hresolve
  · next heq =>
      rw [heq] at hresolve
      split <;> exact hresolve

end Lifecycle

inductive Call (σ : Type) where
  | declare (state : σ)
  | create (c : Context)
  | read (c : Context)
  | delete (c : Context)
  | adopt (c : Context) (importId : String)

namespace Call

variable {σ : Type} {k : Kind σ} {call : Call σ} {p : Record σ × Session} {id : String}

def step (k : Kind σ) (p : Record σ × Session) : Call σ → Record σ × Session
  | .declare state => ({ p.1 with state }, p.2)
  | .create c => ((Lifecycle.create k c p.1 p.2).record, (Lifecycle.create k c p.1 p.2).session)
  | .read c => ((Lifecycle.read k c p.1 p.2).record, (Lifecycle.read k c p.1 p.2).session)
  | .delete c => ((Lifecycle.delete k c p.1 p.2).record, (Lifecycle.delete k c p.1 p.2).session)
  | .adopt c importId =>
      ((Lifecycle.adopt k c importId p.2).1.toOption.getD p.1,
        (Lifecycle.adopt k c importId p.2).2)

def run (k : Kind σ) (calls : List (Call σ)) (p : Record σ × Session) : Record σ × Session :=
  calls.foldl (step k) p

def Renders (k : Kind σ) (p : Record σ × Session) (identity : Fields) (id : String) :
    Call σ → Prop
  | .create c => k.identity p.1.state c = .ok identity ∧ k.id.render identity = .ok id
  | .adopt c importId =>
      (ImportId.resolve importId k.importPatterns c.defaultFields p.2).1 = .ok identity ∧
        k.id.render identity = .ok id
  | _ => False

/-- This call leaves the id that it renders in the record. -/
def Puts (k : Kind σ) (p : Record σ × Session) (identity : Fields) (id : String)
    (call : Call σ) : Prop :=
  call.Renders k p identity id ∧ (step k p call).1.id = some id

theorem step_id (h : (step k p call).1.id = some id) :
    p.1.id = some id ∨ ∃ identity, call.Renders k p identity id := by
  cases call with
  | declare state => exact Or.inl h
  | create c => exact Lifecycle.create_id h
  | read c => exact Or.inl (Lifecycle.read_id h)
  | delete c => exact Or.inl (Lifecycle.delete_id h)
  | adopt c importId =>
      simp only [step] at h
      cases hadopt : (Lifecycle.adopt k c importId p.2).1 with
      | error e =>
          rw [hadopt] at h
          exact Or.inl h
      | ok r' =>
          rw [hadopt] at h
          obtain ⟨identity, id', hid, hrender, hresolve⟩ := Lifecycle.adopt_id hadopt
          have hsame : id' = id := Option.some.inj (hid.symm.trans h)
          rw [hsame] at hrender
          exact Or.inr ⟨identity, hresolve, hrender⟩

theorem run_id (calls : List (Call σ)) (p : Record σ × Session)
    (h : (run k calls p).1.id = some id) :
    p.1.id = some id ∨ ∃ before call after identity, calls = before ++ call :: after ∧
      call.Puts k (run k before p) identity id := by
  -- Over the calls: the first one puts the id there, or keeps it, or a later one does.
  induction calls generalizing p with
  | nil => exact Or.inl h
  | cons call rest ih =>
      rcases ih _ h with hid | ⟨before, later, after, identity, rfl, hputs⟩
      · rcases step_id hid with hold | ⟨identity, hrenders⟩
        · exact Or.inl hold
        · exact Or.inr ⟨[], call, rest, identity, rfl, hrenders, hid⟩
      · exact Or.inr ⟨call :: before, later, after, identity, rfl, hputs⟩

theorem replies_step : (step k p call).2.replies <:+ p.2.replies := by
  cases call with
  | declare state => exact List.suffix_refl _
  | create c => exact Lifecycle.replies_create
  | read c => exact Lifecycle.replies_read
  | delete c => exact Lifecycle.replies_delete
  | adopt c importId =>
      have hsame : (step k p (.adopt c importId)).2.replies = p.2.replies := Lifecycle.replies_adopt
      simp [hsame]

theorem replies_run (k : Kind σ) (calls : List (Call σ)) (p : Record σ × Session) :
    (run k calls p).2.replies <:+ p.2.replies := by
  induction calls generalizing p with
  | nil => exact List.suffix_refl _
  | cons call rest ih => exact (ih _).trans replies_step

end Call

end Reconcile
