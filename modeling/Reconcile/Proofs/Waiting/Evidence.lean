import Reconcile.Proofs.Waiting.Answer
import Reconcile.Proofs.Waiting.Polls

namespace Reconcile

namespace Waiter

def Told (w : Waiter) (start : Duration) (script : Nat → Reply) (handle : Operation) (k : Nat)
    (body : Json) : Prop :=
  ∃ t op m, w.Holds start script handle k t op ∧
    w.Answered (start + w.timeout) script k t op m (.ok body)

section Told

variable {w : Waiter} {start : Duration} {script : Nat → Reply} {handle op next : Operation}
  {k k' : Nat} {body body' : Json}

theorem Told.answer (h : w.Told start script handle k body) :
    ∃ request, (script k).answer request = .ok body := by
  obtain ⟨_, _, _, _, ha⟩ := h
  obtain ⟨path, _, hanswer⟩ := ha.asked
  exact ⟨_, hanswer.symm⟩

theorem Told.asks (h : w.Told start script handle k body) :
    ∃ q, w.Asks start script handle k q := by
  obtain ⟨_, _, _, hh, ha⟩ := h
  obtain ⟨path, hpath, _⟩ := ha.asked
  exact ⟨_, .due hh ha.unfinished ha.due hpath⟩

theorem Told.unfinished_of_lt (h : w.Told start script handle k body)
    (h' : w.Told start script handle k' body') (hlt : k < k') :
    ∃ next, Operation.ofAnswer body = .ok next ∧ next.phase = .polling := by
  obtain ⟨i, rfl⟩ := Nat.exists_eq_add_of_le hlt
  obtain ⟨q, hq⟩ := h'.asks
  obtain ⟨_, hheld, hp, _, _⟩ := hq.earlier
  obtain ⟨t, op, m, hh, ha⟩ := h
  obtain ⟨body'', ha'', hnext⟩ := hh.next hheld
  obtain ⟨_, hsame⟩ := ha.unique ha''
  rw [Except.ok.injEq] at hsame
  subst hsame
  exact ⟨_, hnext, hp⟩

theorem Told.unique (h : w.Told start script handle k body)
    (h' : w.Told start script handle k body') : body' = body := by
  obtain ⟨_, _, _, hh, ha⟩ := h
  obtain ⟨_, _, _, hh', ha'⟩ := h'
  obtain ⟨rfl, rfl⟩ := hh.unique hh'
  obtain ⟨_, hsame⟩ := ha.unique ha'
  rwa [Except.ok.injEq] at hsame

theorem Told.not_reportsDone (h : w.Told start script handle k .null)
    (h' : w.Told start script handle k' body) : ¬ body.ReportsDone := by
  intro hbody
  rcases Nat.lt_trichotomy k k' with hlt | rfl | hlt
  · obtain ⟨next, hnext, hp⟩ := h.unfinished_of_lt h' hlt
    rw [(Operation.phase_of_ofAnswer hnext).2 (.inl rfl)] at hp
    cases hp
  · rw [h.unique h'] at hbody
    exact Json.not_reportsDone_null hbody
  · obtain ⟨next, hnext, hp⟩ := h'.unfinished_of_lt h hlt
    rw [(Operation.phase_of_ofAnswer hnext).2 (.inr hbody)] at hp
    cases hp

theorem Holds.handle_or_told {t : Duration} (h : w.Holds start script handle k t next) :
    next = handle ∨
      ∃ k body, w.Told start script handle k body ∧ Operation.ofAnswer body = .ok next := by
  cases h with
  | handle => exact .inl rfl
  | reply hh ha hnext => exact .inr ⟨_, _, ⟨_, _, _, hh, ha⟩, hnext⟩

theorem Told.holds (h : w.Told start script handle k body)
    (hnext : Operation.ofAnswer body = .ok next) :
    ∃ m, w.Holds start script handle (k + 1) m next := by
  obtain ⟨_, _, m, hh, ha⟩ := h
  exact ⟨m, .reply hh ha hnext⟩

theorem Decides.held_of_ok {m : Duration} (h : w.Decides start script handle m (.ok op)) :
    op.phase = .succeeded ∧ ∃ k t, w.Holds start script handle k t op := by
  obtain ⟨result, hresult⟩ : ∃ result : Except Failure Operation, result = .ok op := ⟨_, rfl⟩
  rw [← hresult] at h
  cases h with
  | @done k t held hh hp =>
      rcases held.phase_cases with hs | hf | hpolling
      · rw [Operation.verdict_of_succeeded hs, Except.ok.injEq] at hresult
        subst hresult
        exact ⟨hs, k, _, hh⟩
      · rw [Operation.verdict_of_failed hf] at hresult
        cases hresult
      · exact absurd hpolling hp
  | refused => cases hresult
  | unreadable => cases hresult
  | unnamed => cases hresult

theorem Holds.decides_of_succeeded {t : Duration} (h : w.Holds start script handle k t op)
    (hdone : op.phase = .succeeded) : w.Decides start script handle t (.ok op) := by
  have hp : op.phase ≠ .polling := by
    rw [hdone]
    exact nofun
  rw [← Operation.verdict_of_succeeded hdone]
  exact .done h hp

theorem wait_eq_ok_iff_told {s : Session} :
    (w.wait handle s).1 = .ok op ↔ op.phase = .succeeded ∧ (op = handle ∨
      ∃ k body, w.Told s.now s.reply handle k body ∧ Operation.ofAnswer body = .ok op) := by
  rw [wait_eq_ok_iff]
  constructor
  · rintro ⟨m, hd⟩
    obtain ⟨hdone, k, t, hh⟩ := hd.held_of_ok
    exact ⟨hdone, hh.handle_or_told⟩
  · rintro ⟨hdone, rfl | ⟨k, body, htold, hnext⟩⟩
    · exact ⟨_, Holds.handle.decides_of_succeeded hdone⟩
    · obtain ⟨m, hh⟩ := htold.holds hnext
      exact ⟨m, hh.decides_of_succeeded hdone⟩

theorem wait_eq_ok_iff_reported {s : Session} {answer : Json}
    (h : Operation.ofAnswer answer = .ok handle) :
    (w.wait handle s).1 = .ok op ↔ ∃ report,
      (report = answer ∨ ∃ k, w.Told s.now s.reply handle k report) ∧
      Operation.ofAnswer report = .ok op ∧ (report = .null ∨ report.ReportsDone) := by
  rw [wait_eq_ok_iff_told]
  constructor
  · rintro ⟨hdone, rfl | ⟨k, body, htold, hnext⟩⟩
    · exact ⟨answer, .inl rfl, h, (Operation.phase_of_ofAnswer h).1 hdone⟩
    · exact ⟨body, .inr ⟨k, htold⟩, hnext, (Operation.phase_of_ofAnswer hnext).1 hdone⟩
  · rintro ⟨report, rfl | ⟨k, htold⟩, hnext, hreport⟩
    · rw [h, Except.ok.injEq] at hnext
      exact ⟨hnext ▸ (Operation.phase_of_ofAnswer h).2 hreport, .inl hnext.symm⟩
    · exact ⟨(Operation.phase_of_ofAnswer hnext).2 hreport, .inr ⟨k, report, htold, hnext⟩⟩

theorem succeeds_iff_told {s : Session} (hopen : handle.status ≠ .done) :
    (∃ s', w.wait? handle s = some (.ok op, s')) ↔ s.now + w.timeout < lastMoment ∧
      ∃ k body, w.Told s.now s.reply handle k body ∧ Operation.ofAnswer body = .ok op ∧
        (body.ReportsDone ∨ body = .null) := by
  rw [exists_wait?_iff, wait_eq_ok_iff_told]
  refine and_congr_right fun _ => ⟨?_, ?_⟩
  · rintro ⟨hdone, rfl | ⟨k, body, htold, hnext⟩⟩
    · exact absurd (Operation.phase_eq_succeeded_iff.1 hdone).1 hopen
    · exact ⟨k, body, htold, hnext, ((Operation.phase_of_ofAnswer hnext).1 hdone).symm⟩
  · rintro ⟨k, body, htold, hnext, hbody⟩
    exact ⟨(Operation.phase_of_ofAnswer hnext).2 hbody.symm, .inr ⟨k, body, htold, hnext⟩⟩

end Told

/-- A wait for an unfinished operation succeeds exactly if the clock can show its deadline and the
answer to a poll is an operation that it reports as done, or is empty. Every success was reported
exactly if no answer was empty. -/
theorem success_is_reported_iff (w : Waiter) (handle : Operation) (s : Session)
    (hopen : handle.status ≠ .done) :
    (∀ op, (∃ s', w.wait? handle s = some (.ok op, s')) ↔ s.now + w.timeout < lastMoment ∧
      ∃ k body, w.Told s.now s.reply handle k body ∧ Operation.ofAnswer body = .ok op ∧
        (body.ReportsDone ∨ body = .null)) ∧
    ((∀ op s', w.wait? handle s = some (.ok op, s') →
        ∃ k body, w.Told s.now s.reply handle k body ∧ body.ReportsDone) ↔
      (s.now + w.timeout < lastMoment → ∀ k, ¬ w.Told s.now s.reply handle k .null)) := by
  refine ⟨fun op => succeeds_iff_told hopen, ?_, ?_⟩
  · intro hreported hshown k hempty
    obtain ⟨s', hok⟩ := (succeeds_iff_told hopen).2 ⟨hshown, k, .null, hempty, rfl, .inr rfl⟩
    obtain ⟨k', body, htold, hbody⟩ := hreported _ _ hok
    exact hempty.not_reportsDone htold hbody
  · intro hnone op s' hok
    obtain ⟨hshown, k, body, htold, _, hbody | rfl⟩ := (succeeds_iff_told hopen).1 ⟨s', hok⟩
    · exact ⟨k, body, htold, hbody⟩
    · exact absurd htold (hnone hshown k)

namespace Answers

def waiter : Waiter := ⟨.ofDefaults ⟨none, none, none⟩, "p1", "Creating Route", 10, 2⟩

def handle : Operation := { Operation.blank with name := "op-1", status := .running }

def session (body : Json) : Session := .start [.ok 0 body] fun n => ⟨n⟩

def report : Json := .obj [("name", .str "op-1"), ("status", .str "DONE")]

theorem told_body {body body' : Json} {k : Nat}
    (h : waiter.Told (session body).now (session body).reply handle k body') : body' = body := by
  obtain ⟨request, hanswer⟩ := h.answer
  cases k with
  | zero => exact (Except.ok.inj hanswer).symm
  | succ k => cases hanswer

theorem success_was_reported :
    handle.status ≠ .done ∧
    (waiter.wait? handle (session report)).map (·.1) = some (.ok { handle with status := .done }) ∧
    ∃ k body, waiter.Told (session report).now (session report).reply handle k body ∧
      body.ReportsDone := by
  have hopen : handle.status ≠ .done := by decide
  have hok : waiter.wait? handle (session report) =
      some (.ok { handle with status := .done }, (waiter.wait handle (session report)).2) := by rfl
  refine ⟨hopen, by rw [hok]; rfl,
    (success_is_reported_iff waiter handle (session report) hopen).2.2 ?_ _ _ hok⟩
  intro _ k hempty
  cases told_body hempty

/-- An operation that runs, asked for once, is taken to be done because the answer is empty. -/
theorem empty_answer_taken_for_success :
    handle.status = .running ∧
    (waiter.wait? handle (session .null)).map (·.1) =
      some (.ok { Operation.blank with status := .done }) ∧
    ¬ ∃ k body, waiter.Told (session .null).now (session .null).reply handle k body ∧
      body.ReportsDone := by
  refine ⟨rfl, by rfl, ?_⟩
  rintro ⟨k, body, htold, hbody⟩
  rw [told_body htold] at hbody
  exact Json.not_reportsDone_null hbody

end Answers

end Waiter

end Reconcile
