import Mathlib.Algebra.BigOperators.Group.Finset.Basic
import Reconcile.Proofs.Waiting.Evidence

namespace Reconcile

open Finset

def Operation.IsOpen (op : Operation) : Prop := op.status ≠ .done ∧ op.name ≠ ""

theorem Operation.IsOpen.exists_path {op : Operation} (h : op.IsOpen) (project : String) :
    ∃ path, op.path? project = some path := by
  exact ⟨_, path?_eq_some_iff.2 ⟨h.2, rfl⟩⟩

def Reply.KeepsOpen (w : Waiter) (reply : Reply) : Prop :=
  ∀ path, ∃ body op, reply.answer (w.pollRequest path) = .ok body ∧
    Operation.ofAnswer body = .ok op ∧ op.IsOpen

namespace Waiter

section Due

variable {w : Waiter} {start t : Duration} {script : Nat → Reply} {handle op : Operation} {k : Nat}
  {q : Sent}

def doubled (w : Waiter) (k : Nat) : Duration :=
  min (w.minInterval * Nat.pow 2 k) (max longestPause w.minInterval)

theorem doubled_succ (w : Waiter) (k : Nat) :
    w.doubled (k + 1) = w.nextInterval (w.doubled k) := by
  have hpow : w.minInterval * Nat.pow 2 (k + 1) = w.minInterval * Nat.pow 2 k * 2 :=
    (Nat.mul_assoc _ _ _).symm
  rw [nextInterval, doubled, doubled, hpow]
  lia

theorem pause_eq_doubled (w : Waiter) (k : Nat) : w.pause k = w.doubled k := by
  induction k with
  | zero => simp [pause, doubled]
  | succ k ih => rw [pause, ih, doubled_succ]

theorem doubled_le_succ (w : Waiter) (k : Nat) : w.doubled k ≤ w.doubled (k + 1) := by
  have hcap : w.doubled k ≤ max longestPause w.minInterval := Nat.min_le_right _ _
  rw [doubled_succ, nextInterval]
  lia

/-- How long after the start the poll with number `k` is due: the pauses up to it and the delays of
the answers before it. -/
def due (w : Waiter) (script : Nat → Reply) (k : Nat) : Duration :=
  ∑ i ∈ range (k + 1), w.doubled i + ∑ i ∈ range k, (script i).delay

theorem due_succ (w : Waiter) (script : Nat → Reply) (k : Nat) :
    w.due script (k + 1) = w.due script k + (script k).delay + w.doubled (k + 1) := by
  rw [due, due, sum_range_succ w.doubled (k + 1), sum_range_succ (fun i => (script i).delay) k]
  lia

theorem due_zero (w : Waiter) (script : Nat → Reply) : w.due script 0 = w.minInterval := by
  simp [due, ← pause_eq_doubled, pause]

theorem minInterval_le_due (w : Waiter) (script : Nat → Reply) (k : Nat) :
    w.minInterval ≤ w.due script k := by
  induction k with
  | zero => rw [due_zero]
  | succ k ih =>
      rw [due_succ]
      lia

theorem Holds.due_eq (h : w.Holds start script handle k t op) :
    t + w.pause k = start + w.due script k := by
  induction h with
  | handle => simp [pause_eq_doubled, due]
  | reply _ ha _ ih =>
      rw [ha.arrival, ih, due_succ, pause_eq_doubled]
      lia

theorem Asks.moment_eq (h : w.Asks start script handle k q) :
    q.moment = start + w.due script k ∧ w.due script k < w.timeout := by
  obtain ⟨hheld, _, hdue, _⟩ := h
  have hmoment := hheld.due_eq
  exact ⟨hmoment, by lia⟩

theorem exists_holds_of_keepsOpen (start : Duration) (hopen : handle.IsOpen)
    (hkeeps : ∀ i < k, (script i).KeepsOpen w) (hdue : w.due script k < w.timeout) :
    ∃ t op, w.Holds start script handle k t op ∧ op.IsOpen := by
  induction k with
  | zero => exact ⟨start, handle, .handle, hopen⟩
  | succ k ih =>
      rw [due_succ] at hdue
      obtain ⟨t, op, hheld, hop⟩ := ih (fun i hi => hkeeps i (Nat.lt_succ_of_lt hi)) (by lia)
      obtain ⟨path, hpath⟩ := hop.exists_path w.project
      obtain ⟨body, next, hanswer, hnext, hstays⟩ := hkeeps k (Nat.lt_succ_self k) path
      have hmoment := hheld.due_eq
      refine ⟨t + w.pause k + (script k).delay, next, .reply hheld ?_ hnext, hstays⟩
      exact ⟨Operation.phase_eq_polling_iff.2 hop.1, by lia, ⟨path, hpath, hanswer.symm⟩, rfl,
        by lia⟩

theorem exists_asks_of_keepsOpen (hopen : handle.IsOpen)
    (hkeeps : ∀ i < k, (script i).KeepsOpen w) (hdue : w.due script k < w.timeout) :
    ∃ q, w.Asks start script handle k q := by
  obtain ⟨t, op, hheld, hop⟩ := exists_holds_of_keepsOpen start hopen hkeeps hdue
  obtain ⟨path, hpath⟩ := hop.exists_path w.project
  have hmoment := hheld.due_eq
  exact ⟨_, .due hheld (Operation.phase_eq_polling_iff.2 hop.1) (by lia) hpath⟩

end Due

/-- The polls of a wait keep to their schedule. A poll that is sent is sent when it is due, which is
before the deadline; and it is sent if it is due before the deadline and the operation is kept open
until then. Pauses never fall below the smallest one, never shrink and never exceed the longest. -/
structure Scheduled (w : Waiter) (handle : Operation) (s : Session) (polls : List Sent) : Prop where
  onTime : ∀ k q, polls[k]? = some q →
    q.moment = s.now + w.due s.reply k ∧ w.due s.reply k < w.timeout
  sent : handle.IsOpen → ∀ k, (∀ i < k, (s.reply i).KeepsOpen w) → w.due s.reply k < w.timeout →
    ∃ q, polls[k]? = some q
  apart : ∀ k q q', polls[k]? = some q → polls[k + 1]? = some q' →
    q'.moment = q.moment + (s.reply k).delay + w.doubled (k + 1)
  paced : ∀ k, w.minInterval ≤ w.doubled k ∧ w.doubled k ≤ w.doubled (k + 1) ∧
    w.doubled k ≤ max (Duration.ofSecs 10) w.minInterval
  few : 0 < w.minInterval → polls.length ≤ w.timeout / w.minInterval

section Scheduled

variable {w : Waiter} {handle : Operation} {s : Session} {polls : List Sent}

theorem doubled_between (w : Waiter) (k : Nat) :
    w.minInterval ≤ w.doubled k ∧ w.doubled k ≤ w.doubled (k + 1) ∧
      w.doubled k ≤ max (Duration.ofSecs 10) w.minInterval :=
  ⟨pause_eq_doubled w k ▸ w.minInterval_le_pause k, w.doubled_le_succ k, Nat.min_le_right _ _⟩

theorem Polls.scheduled (h : w.Polls s.now s.reply handle 0 polls) :
    w.Scheduled handle s polls := by
  refine ⟨?_, ?_, ?_, w.doubled_between, fun hm => h.length_le (.inl hm)⟩
  · intro k q hq
    exact (h.get?_iff.1 hq).moment_eq
  · intro hopen k hkeeps hdue
    obtain ⟨q, hq⟩ := exists_asks_of_keepsOpen hopen hkeeps hdue
    exact ⟨q, h.get?_iff.2 hq⟩
  · intro k q q' hq hq'
    rw [(h.get?_iff.1 hq).moment_eq.1, (h.get?_iff.1 hq').moment_eq.1, due_succ]
    lia

theorem scheduled_nil_iff :
    w.Scheduled handle s [] ↔ ¬ handle.IsOpen ∨ w.timeout ≤ w.minInterval := by
  constructor
  · intro h
    by_contra hcalled
    rw [not_or, not_not, Nat.not_le, ← w.due_zero s.reply] at hcalled
    obtain ⟨q, hq⟩ := h.sent hcalled.1 0 nofun hcalled.2
    cases hq
  · intro hnone
    refine ⟨nofun, ?_, nofun, w.doubled_between, fun _ => Nat.zero_le _⟩
    intro hopen k _ hdue
    have hfirst := w.minInterval_le_due s.reply k
    rcases hnone with hdone | hlate
    · exact absurd hopen hdone
    · lia

end Scheduled

/-- A wait keeps the schedule exactly if the clock can show its deadline, or there is nothing to
send in time. -/
theorem poll_schedule (w : Waiter) (handle : Operation) (s : Session) :
    (∃ polls, (w.leaves handle s).sent = s.sent ++ polls ∧ w.Scheduled handle s polls) ↔
      s.now + w.timeout < lastMoment ∨ ¬ handle.IsOpen ∨ w.timeout ≤ w.minInterval := by
  obtain ⟨polls, hsent, hshown, hbeyond⟩ := w.sent_leaves handle s
  have honly : (∃ polls, (w.leaves handle s).sent = s.sent ++ polls ∧ w.Scheduled handle s polls) ↔
      w.Scheduled handle s polls := by
    constructor
    · rintro ⟨polls', hsent', h⟩
      rw [hsent, List.append_cancel_left_eq] at hsent'
      exact hsent' ▸ h
    · exact fun h => ⟨polls, hsent, h⟩
  rw [honly]
  by_cases hclock : s.now + w.timeout < lastMoment
  · exact iff_of_true (hshown hclock).scheduled (.inl hclock)
  · rw [hbeyond hclock, scheduled_nil_iff, or_iff_right hclock]

namespace Slowing

def waiter : Waiter :=
  ⟨.ofDefaults ⟨none, none, none⟩, "p1", "Creating Route", Duration.ofSecs 30, Duration.ofSecs 3⟩

def handle : Operation := { Operation.blank with name := "op-1", status := .running }

def answer : Json := .obj [("name", .str "op-1"), ("status", .str "RUNNING")]

def session : Session :=
  .start [.ok (Duration.ofSecs 1) answer, .ok (Duration.ofSecs 2) answer,
    .ok (Duration.ofSecs 5) answer] fun n => ⟨n⟩

theorem keepsOpen_answer (delay : Duration) : (Reply.ok delay answer).KeepsOpen waiter :=
  fun _ => ⟨answer, handle, rfl, by rfl, by decide, by decide⟩

theorem third_poll_on_time :
    handle.IsOpen ∧ (∀ i < 2, (session.reply i).KeepsOpen waiter) ∧
    waiter.due session.reply 2 = Duration.ofSecs 22 ∧
    ∃ q, (waiter.leaves handle session).sent[2]? = some q ∧ q.moment = Duration.ofSecs 22 ∧
      (waiter.leaves handle session).sent[3]? = none := by
  have hopen : handle.IsOpen := ⟨by decide, by decide⟩
  have hkeeps : ∀ i < 2, (session.reply i).KeepsOpen waiter
    | 0, _ | 1, _ => keepsOpen_answer _
    | i + 2, hi => absurd hi (by lia)
  have hdue : waiter.due session.reply 2 = Duration.ofSecs 22 := by decide
  obtain ⟨polls, hsent, hscheduled⟩ := (poll_schedule waiter handle session).2 (.inl (by decide))
  rw [show session.sent = [] from rfl, List.nil_append] at hsent
  obtain ⟨q, hq⟩ := hscheduled.sent hopen 2 hkeeps (by rw [hdue]; decide)
  refine ⟨hopen, hkeeps, hdue, q, ?_, ?_, ?_⟩
  · rw [hsent, hq]
  · rw [(hscheduled.onTime 2 q hq).1, hdue]
    rfl
  · rw [hsent, Option.eq_none_iff_forall_ne_some]
    intro q' hq'
    exact absurd (hscheduled.onTime 3 q' hq').2 (by decide)

end Slowing

namespace Unpolled

def waiter : Waiter :=
  ⟨.ofDefaults ⟨none, none, none⟩, "p1", "Creating Route", Duration.ofSecs 18446744073709551615,
    Duration.ofSecs 1⟩

def handle : Operation := { Operation.blank with name := "op-1", status := .running }

def session : Session := .start [] fun n => ⟨n⟩

/-- A poll is due after a second, long before the deadline, but none is sent. -/
theorem first_poll_left_out :
    handle.IsOpen ∧ waiter.due session.reply 0 = Duration.ofSecs 1 ∧
    waiter.due session.reply 0 < waiter.timeout ∧ (waiter.leaves handle session).sent = [] ∧
    ¬ ∃ polls, (waiter.leaves handle session).sent = session.sent ++ polls ∧
      waiter.Scheduled handle session polls := by
  have hopen : handle.IsOpen := ⟨by decide, by decide⟩
  have hdue : waiter.due session.reply 0 = Duration.ofSecs 1 := by decide
  have hnone : (waiter.leaves handle session).sent = [] := by rfl
  refine ⟨hopen, hdue, by decide, hnone, ?_⟩
  rintro ⟨polls, hsent, hscheduled⟩
  obtain rfl := List.nil_eq_append_iff.1 (hnone.symm.trans hsent) |>.2
  obtain ⟨q, hq⟩ := hscheduled.sent hopen 0 nofun (by decide)
  cases hq

end Unpolled

end Waiter

end Reconcile
