import Reconcile.Proofs.Waiting.Evidence

namespace Reconcile.Waiter

inductive Settled (w : Waiter) (start : Duration) (script : Nat → Reply) (handle : Operation) :
    Except Failure Operation → Prop
  | before : handle.status = .done → Settled w start script handle handle.verdict
  | done {k : Nat} {body : Json} {op : Operation} :
      w.Told start script handle k body → Operation.ofAnswer body = .ok op →
      body.ReportsDone ∨ body = .null → Settled w start script handle (.ok op)
  | failed {k : Nat} {body : Json} {faults : List Fault} :
      w.Told start script handle k body → body.ReportsFaults faults →
      Settled w start script handle (.error (.operation faults))
  | lost (status : Option Nat) (trouble : Trouble) :
      Settled w start script handle (.error (.transport status trouble))

/-- What a wait keeps to, whose result comes at this moment. -/
structure Punctual (w : Waiter) (start : Duration) (script : Nat → Reply) (handle : Operation)
    (result : Except Failure Operation) (moment : Duration) : Prop where
  inTime : moment ≤ start + w.timeout
  decided : ∀ m decision, w.Decides start script handle m decision →
    result = decision ∧ moment = m ∧
      ((∀ k, (script k).Plain) → w.Settled start script handle result)
  undecided : (¬ ∃ m decision, w.Decides start script handle m decision) →
    result = .error (.timeout w.description w.timeout) ∧ moment = start + w.timeout

section Law

variable {w : Waiter} {start m : Duration} {script : Nat → Reply} {handle op : Operation} {k : Nat}
  {result : Except Failure Operation}

theorem Settled.of_transport {e : Failure} (h : e.kind = .transport) :
    w.Settled start script handle (.error e) := by
  obtain ⟨status, trouble, rfl⟩ := Failure.kind_eq_transport_iff.1 h
  exact .lost status trouble

theorem Holds.settled {t : Duration} (h : w.Holds start script handle k t op)
    (hp : op.phase ≠ .polling) : w.Settled start script handle op.verdict := by
  rcases h.handle_or_told with rfl | ⟨_, body, htold, hop⟩
  · exact .before (not_not.1 fun hopen => hp (Operation.phase_eq_polling_iff.2 hopen))
  · rcases op.phase_cases with hs | hf | hpolling
    · rw [Operation.verdict_of_succeeded hs]
      exact .done htold hop ((Operation.phase_of_ofAnswer hop).1 hs).symm
    · obtain ⟨hdone, herror⟩ := Operation.phase_eq_failed_iff.1 hf
      obtain ⟨faults, hfaults⟩ := Option.isSome_iff_exists.1 herror
      rw [Operation.verdict_of_failed hf, hfaults]
      exact .failed htold (Operation.reportsFaults_of_ofAnswer hop hdone hfaults)
    · exact absurd hpolling hp

theorem Decides.settled (h : w.Decides start script handle m result)
    (hplain : ∀ k, (script k).Plain) : w.Settled start script handle result := by
  cases h with
  | done hh hp => exact hh.settled hp
  | @refused k _ _ op e _ ha =>
      obtain ⟨path, _, hanswer⟩ := ha.asked
      exact .of_transport (Operation.refusal_kind (hplain k _ e hanswer.symm))
  | unreadable _ _ he =>
      obtain ⟨trouble, rfl⟩ := Operation.ofAnswer_error he
      exact .lost none (.notAnOperation trouble)
  | unnamed => exact .lost none .unnamedOperation

theorem punctual_wait {s : Session} (hm : 0 < w.minInterval)
    (hscript : ∀ k < w.timeout / w.minInterval, s.reply k = script k) :
    w.Punctual s.now script handle (w.wait handle s).1 (w.wait handle s).2.now where
  inTime := now_wait_le w handle s
  decided := by
    intro m decision hd
    obtain ⟨hresult, hmoment⟩ := (hd.congr (.inl hm) fun k hk => (hscript k hk).symm).wait
    exact ⟨hresult, hmoment, fun hplain => hresult ▸ hd.settled hplain⟩
  undecided := by
    intro hnone
    rcases wait_timedOut_or_decides w handle s with htimedOut | ⟨m, decision, hd⟩
    · exact htimedOut
    · exact absurd ⟨m, decision, hd.congr (.inl hm) hscript⟩ hnone

end Law

/-- A wait returns, and ends by its deadline, exactly if the clock can show the deadline. The event
that decides fixes the result and the moment, also in the last moment; without one the wait times
out exactly at the deadline. -/
theorem wait_decided_by_event (w : Waiter) (handle : Operation) (s : Session)
    (script : Nat → Reply) (hm : 0 < w.minInterval)
    (hscript : ∀ k < w.timeout / w.minInterval, s.reply k = script k) :
    (∃ result s', w.wait? handle s = some (result, s') ∧
      w.Punctual s.now script handle result s'.now) ↔ s.now + w.timeout < lastMoment := by
  constructor
  · rintro ⟨result, s', hwait, _⟩
    exact (wait?_eq_some_iff.1 hwait).1
  · intro hshown
    exact ⟨_, _, wait?_of_shown hshown, punctual_wait hm hscript⟩

namespace LastMoment

def waiter : Waiter :=
  ⟨.ofDefaults ⟨none, none, none⟩, "p1", "Creating Route", 10, 2⟩

def handle : Operation := { Operation.blank with name := "op-1" }

def progress (status : String) : Json := .obj [("name", .str "op-1"), ("status", .str status)]

def script (k : Nat) : Reply :=
  if k = 0 then .ok 0 (progress "RUNNING") else .ok 4 (progress "DONE")

def session : Session := .start ((List.range 5).map script) fun n => ⟨n⟩

theorem wait_decided_at_deadline :
    waiter.minInterval = 2 ∧ ∃ s', waiter.wait? handle session =
        some (.ok { handle with status := .done }, s') ∧
      s'.now = session.now + waiter.timeout := by
  have hscript : ∀ k < waiter.timeout / waiter.minInterval, session.reply k = script k
    | 0, _ | 1, _ | 2, _ | 3, _ | 4, _ => rfl
    | k + 5, hk => absurd hk (by simp [waiter])
  obtain ⟨result, s', hwait, hpunctual⟩ :=
    (wait_decided_by_event waiter handle session script (by decide) hscript).2 (by decide)
  have hrunning : waiter.Holds session.now script handle 1 2 { handle with status := .running } :=
    .reply .handle ⟨by rfl, by decide, ⟨_, by rfl, by rfl⟩, by rfl, by decide⟩ (by rfl)
  have hdone : waiter.Holds session.now script handle 2 10 { handle with status := .done } :=
    .reply hrunning ⟨by rfl, by decide, ⟨_, by rfl, by rfl⟩, by rfl, by decide⟩ (by rfl)
  obtain ⟨rfl, hmoment, _⟩ := hpunctual.decided _ _ (.done hdone (by decide))
  exact ⟨rfl, s', hwait, hmoment⟩

end LastMoment

namespace Endmost

def waiter : Waiter :=
  ⟨.ofDefaults ⟨none, none, none⟩, "p1", "Creating Route", Duration.ofSecs 18446744073709551615,
    Duration.ofSecs 1⟩

def handle : Operation := { Operation.blank with name := "op-1", status := .done }

def session : Session := .start [] fun n => ⟨n⟩

/-- The handle is done already, which decides. With the longest timeout there is no result. -/
theorem done_without_result :
    0 < waiter.minInterval ∧
    waiter.Decides session.now session.reply handle session.now (.ok handle) ∧
    ¬ ∃ result s', waiter.wait? handle session = some (result, s') := by
  have hnone : waiter.wait? handle session = none := by rfl
  refine ⟨by decide, Holds.handle.decides_of_succeeded (by rfl), ?_⟩
  rintro ⟨result, s', hwait⟩
  rw [hnone] at hwait
  cases hwait

end Endmost

end Reconcile.Waiter
