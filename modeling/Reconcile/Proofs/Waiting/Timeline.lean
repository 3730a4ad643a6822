import Reconcile.Operation.Waiter

namespace Reconcile

namespace Session

def spent : Reply := ⟨0, fun _ => .error exhausted⟩

def reply (s : Session) (k : Nat) : Reply := s.replies.getD k spent

end Session

def Reply.Plain (reply : Reply) : Prop :=
  ∀ request e, reply.answer request = .error e → e.kind = .transport ∨ e.kind = .notFound

namespace Operation

def verdict (op : Operation) : Except Failure Operation :=
  match op.error with
  | none => .ok op
  | some faults => .error (.operation faults)

def refusal (op : Operation) (e : Failure) : Failure :=
  if e.isNotFound then .transport (some 404) (.vanishedOperation op.name) else e

theorem refusal_isNotFound (op : Operation) (e : Failure) :
    (op.refusal e).isNotFound = false := by
  unfold refusal
  split
  · rfl
  · next h => simpa using h

theorem refusal_kind {op : Operation} {e : Failure}
    (h : e.kind = .transport ∨ e.kind = .notFound) : (op.refusal e).kind = .transport := by
  unfold refusal
  split
  · rfl
  · next hn =>
    rcases h with h | h
    · exact h
    · exact absurd (by simp [Failure.isNotFound, h]) hn

theorem verdict_of_failed {op : Operation} (h : op.phase = .failed) :
    op.verdict = .error (.operation (op.error.getD [])) := by
  obtain ⟨_, he⟩ := phase_eq_failed_iff.1 h
  obtain ⟨faults, hf⟩ := Option.isSome_iff_exists.1 he
  simp [verdict, hf]

theorem verdict_of_succeeded {op : Operation} (h : op.phase = .succeeded) :
    op.verdict = .ok op := by
  simp [verdict, (phase_eq_succeeded_iff.1 h).2]

theorem phase_cases (op : Operation) :
    op.phase = .succeeded ∨ op.phase = .failed ∨ op.phase = .polling := by
  cases h : op.phase with
  | submitted => exact absurd h op.phase_ne_submitted
  | polling => exact Or.inr (Or.inr rfl)
  | succeeded => exact Or.inl rfl
  | failed => exact Or.inr (Or.inl rfl)

theorem ofAnswer_error {answer : Json} {e : Failure} (h : ofAnswer answer = .error e) :
    ∃ trouble, e = .transport none (.notAnOperation trouble) := by
  unfold ofAnswer at h
  split at h
  · cases h
  · split at h
    · cases h
    · next trouble _ => exact ⟨trouble, by simpa using h.symm⟩

end Operation

namespace Waiter

def pause (w : Waiter) : Nat → Duration
  | 0 => w.minInterval
  | k + 1 => w.nextInterval (w.pause k)

theorem minInterval_le_pause (w : Waiter) (k : Nat) : w.minInterval ≤ w.pause k := by
  induction k with
  | zero => exact Nat.le_refl _
  | succ k ih =>
      have hcap : w.minInterval ≤ max longestPause w.minInterval := Nat.le_max_right _ _
      have hdouble : w.minInterval ≤ w.pause k * 2 := by lia
      exact Nat.le_min.2 ⟨hdouble, hcap⟩

def Paced (w : Waiter) : Prop := 0 < w.minInterval ∨ w.timeout = 0

/-- The poll with number `k`, due after its pause from `t` on, is sent before the deadline and
answered at `m`, in time. -/
structure Answered (w : Waiter) (deadline : Duration) (script : Nat → Reply) (k : Nat)
    (t : Duration) (op : Operation) (m : Duration) (answer : Except Failure Json) : Prop where
  unfinished : op.phase = .polling
  due : t + w.pause k < deadline
  asked : ∃ path, op.path? w.project = some path ∧ answer = (script k).answer (w.pollRequest path)
  arrival : m = t + w.pause k + (script k).delay
  inTime : m ≤ deadline

inductive Holds (w : Waiter) (start : Duration) (script : Nat → Reply) (handle : Operation) :
    Nat → Duration → Operation → Prop
  | handle : Holds w start script handle 0 start handle
  | reply {k : Nat} {t m : Duration} {op next : Operation} {body : Json} :
      Holds w start script handle k t op →
      w.Answered (start + w.timeout) script k t op m (.ok body) →
      Operation.ofAnswer body = .ok next →
      Holds w start script handle (k + 1) m next

/-- The event at this moment decides the wait, with this result: the operation is done, a poll
fails, its answer is no operation, or a poll falls due for an operation without a name. -/
inductive Decides (w : Waiter) (start : Duration) (script : Nat → Reply) (handle : Operation) :
    Duration → Except Failure Operation → Prop
  | done {k : Nat} {t : Duration} {op : Operation} :
      w.Holds start script handle k t op → op.phase ≠ .polling →
      Decides w start script handle t op.verdict
  | refused {k : Nat} {t m : Duration} {op : Operation} {e : Failure} :
      w.Holds start script handle k t op →
      w.Answered (start + w.timeout) script k t op m (.error e) →
      Decides w start script handle m (.error (op.refusal e))
  | unreadable {k : Nat} {t m : Duration} {op : Operation} {body : Json} {e : Failure} :
      w.Holds start script handle k t op →
      w.Answered (start + w.timeout) script k t op m (.ok body) →
      Operation.ofAnswer body = .error e →
      Decides w start script handle m (.error e)
  | unnamed {k : Nat} {t : Duration} {op : Operation} :
      w.Holds start script handle k t op → op.phase = .polling →
      t + w.pause k < start + w.timeout → op.path? w.project = none →
      Decides w start script handle (t + w.pause k) (.error (.transport none .unnamedOperation))

variable {w : Waiter} {start : Duration} {script other : Nat → Reply} {handle op : Operation}
  {k : Nat} {t m : Duration} {result : Except Failure Operation}

theorem Holds.between (h : w.Holds start script handle k t op) :
    start ≤ t ∧ t ≤ start + w.timeout := by
  induction h with
  | handle => exact ⟨Nat.le_refl _, Nat.le_add_right _ _⟩
  | reply _ ha _ ih =>
      have harrival := ha.arrival
      exact ⟨by lia, ha.inTime⟩

theorem Decides.between (h : w.Decides start script handle m result) :
    start ≤ m ∧ m ≤ start + w.timeout := by
  cases h with
  | done hh _ => exact hh.between
  | refused hh ha =>
      have hfrom := hh.between.1
      have harrival := ha.arrival
      exact ⟨by lia, ha.inTime⟩
  | unreadable hh ha _ =>
      have hfrom := hh.between.1
      have harrival := ha.arrival
      exact ⟨by lia, ha.inTime⟩
  | unnamed hh _ hdue _ =>
      have hfrom := hh.between.1
      exact ⟨by lia, by lia⟩

theorem Holds.pauses_le (h : w.Holds start script handle k t op) :
    start + k * w.minInterval ≤ t := by
  induction h with
  | handle => simp
  | @reply k _ _ _ _ _ _ ha _ ih =>
      have harrival := ha.arrival
      have hpause := w.minInterval_le_pause k
      rw [Nat.succ_mul]
      lia

theorem Holds.poll_lt (h : w.Holds start script handle k t op)
    (hdue : t + w.pause k < start + w.timeout) (hpaced : w.Paced) :
    k < w.timeout / w.minInterval := by
  have hpauses := h.pauses_le
  have hpause := w.minInterval_le_pause k
  have hspan : (k + 1) * w.minInterval < w.timeout := by
    rw [Nat.succ_mul]
    lia
  rcases hpaced with hm | hnever
  · exact (Nat.le_div_iff_mul_le hm).2 (Nat.le_of_lt hspan)
  · rw [hnever] at hspan
    exact absurd hspan (Nat.not_lt_zero _)

theorem Answered.congr {deadline : Duration} {answer : Except Failure Json}
    (h : w.Answered deadline script k t op m answer) (heq : script k = other k) :
    w.Answered deadline other k t op m answer := by
  obtain ⟨hunfinished, hdue, hasked, harrival, hinTime⟩ := h
  rw [heq] at hasked harrival
  exact ⟨hunfinished, hdue, hasked, harrival, hinTime⟩

theorem Holds.congr (hpaced : w.Paced)
    (heq : ∀ k < w.timeout / w.minInterval, script k = other k)
    (h : w.Holds start script handle k t op) : w.Holds start other handle k t op := by
  induction h with
  | handle => exact .handle
  | reply hh ha hnext ih => exact .reply ih (ha.congr (heq _ (hh.poll_lt ha.due hpaced))) hnext

theorem Decides.congr (hpaced : w.Paced)
    (heq : ∀ k < w.timeout / w.minInterval, script k = other k)
    (h : w.Decides start script handle m result) : w.Decides start other handle m result := by
  cases h with
  | done hh hp => exact .done (hh.congr hpaced heq) hp
  | refused hh ha =>
      exact .refused (hh.congr hpaced heq) (ha.congr (heq _ (hh.poll_lt ha.due hpaced)))
  | unreadable hh ha he =>
      exact .unreadable (hh.congr hpaced heq) (ha.congr (heq _ (hh.poll_lt ha.due hpaced))) he
  | unnamed hh hp hdue hn => exact .unnamed (hh.congr hpaced heq) hp hdue hn

theorem Decides.result_cases (h : w.Decides start script handle m result) :
    (∃ op : Operation, op.phase = .succeeded ∧ result = .ok op) ∨
    (∃ (op : Operation) (faults : List Fault), op.status = .done ∧ op.error = some faults ∧
      result = .error (.operation faults)) ∨
    (∃ e : Failure, e.isNotFound = false ∧ ((∀ k, (script k).Plain) → e.kind = .transport) ∧
      result = .error e) := by
  cases h with
  | @done _ _ op _ hp =>
      rcases op.phase_cases with hs | hf | hpolling
      · exact Or.inl ⟨op, hs, Operation.verdict_of_succeeded hs⟩
      · obtain ⟨hdone, he⟩ := Operation.phase_eq_failed_iff.1 hf
        obtain ⟨faults, hfaults⟩ := Option.isSome_iff_exists.1 he
        refine Or.inr (Or.inl ⟨op, faults, hdone, hfaults, ?_⟩)
        simp [Operation.verdict, hfaults]
      · exact absurd hpolling hp
  | @refused k _ _ op e _ ha =>
      refine Or.inr (Or.inr ⟨_, op.refusal_isNotFound e, ?_, rfl⟩)
      intro hplain
      obtain ⟨path, _, hanswer⟩ := ha.asked
      exact Operation.refusal_kind (hplain k _ e hanswer.symm)
  | unreadable _ _ he =>
      obtain ⟨trouble, rfl⟩ := Operation.ofAnswer_error he
      exact Or.inr (Or.inr ⟨_, rfl, fun _ => rfl, rfl⟩)
  | unnamed => exact Or.inr (Or.inr ⟨_, rfl, fun _ => rfl, rfl⟩)

end Waiter

end Reconcile
