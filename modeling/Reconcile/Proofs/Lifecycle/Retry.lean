import Reconcile.Network.Route
import Reconcile.Proofs.Lifecycle.Outcome
import Reconcile.Proofs.Template.Spelling

namespace Reconcile

namespace Failure

variable {e : Failure}

def Temporary (e : Failure) : Prop := e.hint = " (temporary failure; safe to retry)"

instance (e : Failure) : Decidable e.Temporary := inferInstanceAs (Decidable (_ = _))

theorem temporary_iff :
    e.Temporary ↔ ∃ status trouble, e = .transport status trouble ∧
      ∀ n, status = some n → n = 429 ∨ 500 ≤ n := by
  cases e with
  | transport status trouble =>
      cases status with
      | none => simp [Temporary, hint, kind, isRetryable]
      | some n => simp [Temporary, hint, kind, isRetryable, Classical.or_iff_not_imp_left]
  | invalid field flaw => simp [Temporary, hint, kind, isRetryable]
  | invalidReference field value expected => simp [Temporary, hint, kind, isRetryable]
  | noPatternMatched id patterns => simp [Temporary, hint, kind, isRetryable]
  | notFound url => simp [Temporary, hint, kind, isRetryable]
  | operation faults => simp [Temporary, hint, kind]
  | timeout description elapsed => simp [Temporary, hint, kind]

theorem temporary_of_no_status (trouble : Trouble) : (transport none trouble).Temporary :=
  temporary_iff.2 ⟨none, trouble, rfl, nofun⟩

theorem Temporary.isNotFound (h : e.Temporary) : e.isNotFound = false := by
  obtain ⟨status, trouble, rfl, _⟩ := temporary_iff.1 h
  rfl

end Failure

namespace Operation

variable {op : Operation} {e : Failure}

theorem refusal_of_temporary (h : e.Temporary) : op.refusal e = e := by
  simp [refusal, h.isNotFound]

theorem temporary_of_refusal (h : (op.refusal e).Temporary) : e.Temporary := by
  unfold refusal at h
  split at h
  · exact absurd h (by simp [Failure.temporary_iff])
  · exact h

end Operation

namespace Waiter

variable {w : Waiter} {handle : Operation} {s : Session} {e : Failure}

inductive Loses (w : Waiter) (start : Duration) (script : Nat → Reply) (handle : Operation) :
    Failure → Prop
  | refused {k : Nat} {t m : Duration} {op : Operation} {e : Failure} :
      w.Holds start script handle k t op →
      w.Answered (start + w.timeout) script k t op m (.error e) → e.Temporary →
      Loses w start script handle e
  | unreadable {k : Nat} {t m : Duration} {op : Operation} {body : Json} {e : Failure} :
      w.Holds start script handle k t op →
      w.Answered (start + w.timeout) script k t op m (.ok body) →
      Operation.ofAnswer body = .error e → Loses w start script handle e
  | unnamed {k : Nat} {t : Duration} {op : Operation} :
      w.Holds start script handle k t op → op.phase = .polling →
      t + w.pause k < start + w.timeout → op.path? w.project = none →
      Loses w start script handle (.transport none .unnamedOperation)

theorem Loses.wait (h : w.Loses s.now s.reply handle e) :
    (w.wait handle s).1 = .error e ∧ e.Temporary := by
  cases h with
  | @refused k t m op e hholds hanswered htemporary =>
      have hdecides := Decides.refused hholds hanswered
      rw [Operation.refusal_of_temporary htemporary] at hdecides
      exact ⟨hdecides.wait.1, htemporary⟩
  | unreadable hholds hanswered hop =>
      have hdecides := Decides.unreadable hholds hanswered hop
      obtain ⟨trouble, rfl⟩ := Operation.ofAnswer_error hop
      exact ⟨hdecides.wait.1, Failure.temporary_of_no_status _⟩
  | unnamed hholds hphase hdue hpath =>
      have hdecides := Decides.unnamed hholds hphase hdue hpath
      exact ⟨hdecides.wait.1, Failure.temporary_of_no_status _⟩

theorem loses_of_wait (h : (w.wait handle s).1 = .error e) (he : e.Temporary) :
    w.Loses s.now s.reply handle e := by
  rcases wait_timedOut_or_decides w handle s with htimedOut | ⟨m, result, hdecides⟩
  · rw [htimedOut.1, Except.error.injEq] at h
    subst h
    exact absurd he (by simp [Failure.temporary_iff])
  · rw [hdecides.wait.1] at h
    cases hdecides with
    | @done k m op hholds hphase =>
        rcases op.phase_cases with hsucceeded | hfailed | hpolling
        · rw [Operation.verdict_of_succeeded hsucceeded] at h
          cases h
        · rw [Operation.verdict_of_failed hfailed, Except.error.injEq] at h
          subst h
          exact absurd he (by simp [Failure.temporary_iff])
        · exact absurd hpolling hphase
    | @refused k t m op e' hholds hanswered =>
        rw [Except.error.injEq] at h
        subst h
        have htemporary := Operation.temporary_of_refusal he
        rw [Operation.refusal_of_temporary htemporary]
        exact .refused hholds hanswered htemporary
    | unreadable hholds hanswered hop =>
        rw [Except.error.injEq] at h
        subst h
        exact .unreadable hholds hanswered hop
    | unnamed hholds hphase hdue hpath =>
        rw [Except.error.injEq] at h
        subst h
        exact .unnamed hholds hphase hdue hpath

end Waiter

namespace Lifecycle

variable {σ : Type} {k : Kind σ} {c : Context} {r : Record σ} {s s' : Session} {p : Plan}
  {answer : Json} {e : Failure} {id : String}

theorem read_temporary_iff (hid : r.id = some id) (he : e.Temporary) :
    (read k c r s).ending = .returned (.error e) ↔
      ∃ identity path, Locates k id identity path ∧ (s.send (lookUp c path)).1 = .error e := by
  constructor
  · intro h
    have heffect := read_effect (k := k) (c := c) (s := s) hid
    generalize read k c r s = o at heffect h
    cases heffect with
    | foreign =>
        cases h
        exact absurd he (by simp [Failure.temporary_iff])
    | pathless _ hrender =>
        cases h
        obtain ⟨field, flaw, rfl⟩ := Template.render_error hrender
        exact absurd he (by simp [Failure.temporary_iff])
    | found => cases h
    | gone => cases h
    | failed hl hsend =>
        cases h
        exact ⟨_, _, hl, congrArg Prod.fst hsend⟩
  · rintro ⟨identity, path, hl, hsend⟩
    obtain ⟨s', hpair⟩ : ∃ s', s.send ⟨.get, c.url path, none⟩ = (.error e, s') :=
      ⟨_, Prod.ext hsend rfl⟩
    simp only [read, identityOf, hid, hl.1, hl.2, hpair, he.isNotFound, Bool.false_eq_true,
      if_false]

theorem hydrate_error_iff :
    (hydrate k c id r s).ending = .returned (.error e) ↔
      (read k c ⟨some id, r.state⟩ (s.note .info ("Finished creating " ++ k.name ++ " " ++
        Text.quoted id))).ending = .returned (.error e) := by
  unfold hydrate
  simp only
  split
  · next heq => simp [heq]
  · next heq => simp [heq]
  · next heq => simp [heq]
  · next heq => simp [heq]

theorem hydrate_temporary_iff (he : e.Temporary) :
    (hydrate k c id r s).ending = .returned (.error e) ↔
      ∃ identity path, Locates k id identity path ∧ (s.send (lookUp c path)).1 = .error e := by
  rw [hydrate_error_iff, read_temporary_iff rfl he]
  simp only [Session.send_note]

def Accepted (k : Kind σ) (c : Context) (r : Record σ) (s : Session) : Prop :=
  ∃ p answer s', plan k c r.state = .ok p ∧ posted c p s = (.ok answer, s')

inductive LosesTouch (k : Kind σ) (c : Context) (p : Plan) (answer : Json) (s' : Session) :
    Failure → Prop
  | unreadable {e : Failure} :
      Operation.ofAnswer answer = .error e → LosesTouch k c p answer s' e
  | waiting {op : Operation} {e : Failure} :
      Operation.ofAnswer answer = .ok op → (creation k c p).Loses s'.now s'.reply op e →
      LosesTouch k c p answer s' e
  | reading {op done : Operation} {s'' : Session} {identity : Fields} {path : String}
      {e : Failure} :
      Operation.ofAnswer answer = .ok op → (creation k c p).wait op s' = (.ok done, s'') →
      Locates k p.id identity path → (s''.send (lookUp c path)).1 = .error e → e.Temporary →
      LosesTouch k c p answer s' e

theorem LosesTouch.create (hplan : plan k c r.state = .ok p)
    (hpost : posted c p s = (.ok answer, s')) (h : LosesTouch k c p answer s' e)
    (hreturns : (create k c r s).ending ≠ .overflowed) :
    (Lifecycle.create k c r s).ending = .returned (.error e) ∧ e.Temporary := by
  cases h with
  | unreadable hop =>
      obtain ⟨trouble, rfl⟩ := Operation.ofAnswer_error hop
      rw [create_of_plan hplan, hpost]
      simp only [finish_of_unreadable hop, true_and]
      exact Failure.temporary_of_no_status _
  | waiting hop hloses =>
      obtain ⟨hwait, htemporary⟩ := hloses.wait
      rw [create_of_failed hplan hpost hop
        (wait?_of_returns hplan hpost hop hreturns (Prod.ext hwait rfl))]
      exact ⟨rfl, htemporary⟩
  | reading hop hwait hl hsend htemporary =>
      rw [create_of_done hplan hpost hop (wait?_of_returns hplan hpost hop hreturns hwait)]
      exact ⟨(hydrate_temporary_iff htemporary).2 ⟨_, _, hl, hsend⟩, htemporary⟩

theorem losesTouch_of_create (hplan : plan k c r.state = .ok p)
    (hpost : posted c p s = (.ok answer, s'))
    (h : (create k c r s).ending = .returned (.error e)) (he : e.Temporary) :
    LosesTouch k c p answer s' e := by
  have hreturns : (create k c r s).ending ≠ .overflowed := by
    rw [h]
    exact nofun
  cases hop : Operation.ofAnswer answer with
  | error e' =>
      rw [create_of_plan hplan, hpost] at h
      simp only [finish_of_unreadable hop] at h
      cases h
      exact .unreadable hop
  | ok op =>
      cases hwait : (creation k c p).wait op s' with
      | mk result s'' =>
          have hwaited := wait?_of_returns hplan hpost hop hreturns hwait
          cases result with
          | error e' =>
              rw [create_of_failed hplan hpost hop hwaited] at h
              cases h
              exact .waiting hop (Waiter.loses_of_wait (congrArg Prod.fst hwait) he)
          | ok done =>
              rw [create_of_done hplan hpost hop hwaited] at h
              obtain ⟨identity, path, hl, hsend⟩ := (hydrate_temporary_iff he).1 h
              exact .reading hop hwait hl hsend he

/-- A create whose failure is said to be safe to retry has not inserted anything, exactly if touch
is never lost after the insert was accepted. -/
theorem retry_hint_honest_iff (k : Kind σ) (c : Context) (r : Record σ) (s : Session)
    (hreturns : (create k c r s).ending ≠ .overflowed) :
    (∀ e, (create k c r s).ending = .returned (.error e) → e.Temporary → ¬ Accepted k c r s) ↔
      ∀ p answer s', plan k c r.state = .ok p → posted c p s = (.ok answer, s') →
        ∀ e, ¬ LosesTouch k c p answer s' e := by
  constructor
  · intro hhonest p answer s' hplan hpost e hloses
    obtain ⟨hending, htemporary⟩ := hloses.create hplan hpost hreturns
    exact hhonest e hending htemporary ⟨p, answer, s', hplan, hpost⟩
  · rintro hkept e hending htemporary ⟨p, answer, s', hplan, hpost⟩
    exact hkept p answer s' hplan hpost e (losesTouch_of_create hplan hpost hending htemporary)

namespace Unavailable

def context : Context := .ofDefaults ⟨some "p1", none, none⟩

def record : Record Route :=
  .desired { Route.blank with
    name := "to-nat", destRange := "0.0.0.0/0", network := "default"
    nextHopIp := some "10.128.0.2" }

def planned : Plan :=
  ⟨[("name", "to-nat"), ("project", "p1")],
    ⟨[("destRange", .str "0.0.0.0/0"), ("name", .str "to-nat"),
      ("network", .str "projects/p1/global/networks/default"), ("nextHopIp", .str "10.128.0.2")]⟩,
    "p1/to-nat", "projects/p1/global/routes"⟩

def accepted : Json := .obj [("name", .str "op-1"), ("status", .str "RUNNING")]

def handle : Operation := { Operation.blank with name := "op-1", status := .running }

def unavailable : Failure := .transport (some 503) (.reported "backend unavailable")

def refusing : Session := .start [.failed 0 (some 503) "backend unavailable"] fun n => ⟨n⟩

def forgetful : Session :=
  .start [.ok 0 accepted, .failed 0 (some 503) "backend unavailable"] fun n => ⟨n⟩

theorem plan_record : plan Route.kind context record.state = .ok planned := by rfl

theorem refused_insert_not_accepted :
    (create Route.kind context record refusing).ending ≠ .overflowed ∧
    (create Route.kind context record refusing).ending = .returned (.error unavailable) ∧
    unavailable.Temporary ∧ ¬ Accepted Route.kind context record refusing := by
  have hreturns : (create Route.kind context record refusing).ending ≠ .overflowed :=
    Ending.ne_overflowed (by decide +kernel)
  have hpost : (posted context planned refusing).1 = .error unavailable := by rfl
  have hending : (create Route.kind context record refusing).ending =
      .returned (.error unavailable) := by
    rw [create_of_plan plan_record]
    rfl
  have htemporary : unavailable.Temporary := by decide
  refine ⟨hreturns, hending, htemporary, ?_⟩
  refine (retry_hint_honest_iff Route.kind context record refusing hreturns).2 ?_ _ hending
    htemporary
  intro p answer s' hplan hanswer
  rw [plan_record, Except.ok.injEq] at hplan
  subst hplan
  rw [hanswer] at hpost
  cases hpost

/-- The insert was accepted, and yet the create is said to be safe to retry. -/
theorem safe_to_retry_though_accepted :
    Accepted Route.kind context record forgetful ∧
    (create Route.kind context record forgetful).ending = .returned (.error unavailable) ∧
    unavailable.Temporary := by
  have hpost : posted context planned forgetful =
      (.ok accepted, (posted context planned forgetful).2) := by rfl
  have hwait : (creation Route.kind context planned).wait? handle
      (posted context planned forgetful).2 = some (.error unavailable,
        ((creation Route.kind context planned).wait handle
          (posted context planned forgetful).2).2) := by rfl
  refine ⟨⟨planned, accepted, _, plan_record, hpost⟩, ?_, by decide⟩
  rw [create_of_failed plan_record hpost (by rfl) hwait]

end Unavailable

end Lifecycle

end Reconcile
