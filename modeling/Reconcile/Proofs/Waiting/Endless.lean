import Reconcile.Lifecycle
import Reconcile.Network.Route
import Reconcile.Proofs.Waiting.Polls
import Reconcile.Settings

namespace Reconcile

def Session.feed (s : Session) (script : Nat → Reply) (n : Nat) : Session :=
  { s with replies := (List.range n).map script }

theorem Session.reply_feed {s : Session} {script : Nat → Reply} {n k : Nat} (h : k < n) :
    (s.feed script n).reply k = script k := by
  simp [reply, feed, h]

namespace Waiter

def EndsWithin (w : Waiter) (bound : Nat) (handle : Operation) (s : Session)
    (script : Nat → Reply) : Prop :=
  ∃ result moment polls, polls.length ≤ bound ∧ ∀ n, bound ≤ n →
    ∃ s', w.wait? handle (s.feed script n) = some (result, s') ∧ s'.now = moment ∧
      s'.sent = s.sent ++ polls

variable {w : Waiter} {handle op : Operation} {s s' : Session} {script : Nat → Reply}
  {body : Json} {path : String} {bound k n : Nat}

theorem wait_congr (handle : Operation) (hpaced : w.Paced) (hnow : s'.now = s.now)
    (heq : ∀ k < w.timeout / w.minInterval, s.reply k = s'.reply k) :
    (w.wait handle s').1 = (w.wait handle s).1 ∧
    (w.wait handle s').2.now = (w.wait handle s).2.now := by
  rcases wait_timedOut_or_decides w handle s with ht | ⟨m, result, hd⟩
  · rcases wait_timedOut_or_decides w handle s' with ht' | ⟨m, result, hd'⟩
    · rw [ht.1, ht.2, ht'.1, ht'.2, hnow]
      exact ⟨rfl, rfl⟩
    · have hd := hd'.congr hpaced fun k hk => (heq k hk).symm
      rw [hnow] at hd
      rw [hd.wait.1, hd.wait.2, hd'.wait.1, hd'.wait.2]
      exact ⟨rfl, rfl⟩
  · have hd' := hd.congr hpaced heq
    rw [← hnow] at hd'
    rw [hd.wait.1, hd.wait.2, hd'.wait.1, hd'.wait.2]
    exact ⟨rfl, rfl⟩

theorem sent_wait_congr {polls : List Sent} (hpaced : w.Paced) (hnow : s'.now = s.now)
    (heq : ∀ k < w.timeout / w.minInterval, s.reply k = s'.reply k)
    (hsent : (w.wait handle s).2.sent = s.sent ++ polls) :
    (w.wait handle s').2.sent = s'.sent ++ polls := by
  obtain ⟨polls₁, hsent₁, hpolls₁⟩ := w.sent_wait handle s
  obtain ⟨polls₂, hsent₂, hpolls₂⟩ := w.sent_wait handle s'
  have hfirst : polls₁ = polls := List.append_cancel_left (hsent₁.symm.trans hsent)
  rw [hnow] at hpolls₂
  rw [hsent₂, (hpolls₁.congr hpaced heq).unique hpolls₂, hfirst]

theorem endsWithin_of_paced (hshown : s.now + w.timeout < lastMoment) (hpaced : w.Paced) :
    w.EndsWithin (w.timeout / w.minInterval) handle s script := by
  let enough := s.feed script (w.timeout / w.minInterval)
  obtain ⟨polls, hsent, hpolls⟩ := w.sent_wait handle enough
  refine ⟨(w.wait handle enough).1, (w.wait handle enough).2.now, polls,
    hpolls.length_le hpaced, ?_⟩
  intro n hn
  have hsame : ∀ k < w.timeout / w.minInterval, enough.reply k = (s.feed script n).reply k := by
    intro k hk
    rw [Session.reply_feed hk, Session.reply_feed (Nat.lt_of_lt_of_le hk hn)]
  have hnow : (s.feed script n).now = enough.now := rfl
  obtain ⟨hresult, hmoment⟩ := wait_congr handle hpaced hnow hsame
  refine ⟨(w.wait handle (s.feed script n)).2, ?_, hmoment, sent_wait_congr hpaced hnow hsame hsent⟩
  rw [← hresult]
  exact if_pos hshown

theorem shown_of_endsWithin (h : w.EndsWithin bound handle s script) :
    s.now + w.timeout < lastMoment := by
  obtain ⟨result, moment, polls, _, hends⟩ := h
  obtain ⟨s', hwait, _⟩ := hends bound (Nat.le_refl _)
  unfold wait? at hwait
  split at hwait
  · next hshown => exact hshown
  · cases hwait

theorem pause_eq_zero (h : w.minInterval = 0) (k : Nat) : w.pause k = 0 := by
  induction k with
  | zero => exact h
  | succ k ih => simp [pause, nextInterval, ih]

section Spinning

variable (hm : w.minInterval = 0) (ht : 0 < w.timeout) (hp : op.phase = .polling)
  (hpath : op.path? w.project = some path) (hbody : Operation.ofAnswer body = .ok op)

include hm ht hp hpath hbody

theorem holds_of_no_pause (hk : k ≤ n) :
    w.Holds s.now (s.feed (fun _ => .ok 0 body) n).reply op k s.now op := by
  induction k with
  | zero => exact .handle
  | succ k ih =>
      refine .reply (ih (Nat.le_of_lt hk)) ?_ hbody
      have hreply : (s.feed (fun _ => .ok 0 body) n).reply k = .ok 0 body := Session.reply_feed hk
      refine ⟨hp, ?_, ⟨path, hpath, ?_⟩, ?_, Nat.le_add_right _ _⟩
      · rw [pause_eq_zero hm]
        exact Nat.lt_add_of_pos_right ht
      · rw [hreply]
        rfl
      · rw [pause_eq_zero hm, hreply]
        rfl

theorem lt_length_of_no_pause {polls : List Sent}
    (hsent : (w.wait op (s.feed (fun _ => .ok 0 body) n)).2.sent = s.sent ++ polls) :
    n < polls.length := by
  obtain ⟨polls', hsent', hpolls⟩ := w.sent_wait op (s.feed (fun _ => .ok 0 body) n)
  have hsame : polls' = polls := List.append_cancel_left (hsent'.symm.trans hsent)
  subst hsame
  have hheld := holds_of_no_pause (s := s) hm ht hp hpath hbody (Nat.le_refl n)
  have hdue : s.now + w.pause n < s.now + w.timeout := by
    rw [pause_eq_zero hm]
    exact Nat.lt_add_of_pos_right ht
  have hlast := hpolls.get?_iff.2 (.due hheld hp hdue hpath)
  exact (List.getElem?_eq_some_iff.1 hlast).1

theorem not_endsWithin_of_no_pause : ¬ w.EndsWithin bound op s fun _ => .ok 0 body := by
  rintro ⟨result, moment, polls, hlength, hends⟩
  obtain ⟨s', hwait, _, hsent⟩ := hends bound (Nat.le_refl _)
  unfold wait? at hwait
  split at hwait
  · rw [Option.some.injEq] at hwait
    have hmore : bound < polls.length := by
      apply lt_length_of_no_pause hm ht hp hpath hbody
      rw [hwait]
      exact hsent
    exact absurd hlength (Nat.not_le_of_lt hmore)
  · cases hwait

end Spinning

namespace Running

def operation : Operation := { Operation.blank with name := "op-1", status := .running }

def answer : Json := .obj [("name", .str "op-1"), ("status", .str "RUNNING")]

theorem ofAnswer_answer : Operation.ofAnswer answer = .ok operation := by
  rfl

theorem path?_operation (project : String) : operation.path? project =
    some ("projects/" ++ project ++ "/" ++ "global" ++ "/operations/" ++ "op-1") := by
  rfl

end Running

/-- The waits from a moment on are bounded, whatever the operation and the replies, exactly when
the clock can show the deadline and a pause takes time (or there is no time to wait at all). The
bound then is the number of smallest pauses that fit. -/
theorem endless_wait_bounded_iff (w : Waiter) (s : Session) :
    ((∃ bound, ∀ handle script, w.EndsWithin bound handle s script) ↔
      s.now + w.timeout < lastMoment ∧ (0 < w.minInterval ∨ w.timeout = 0)) ∧
    ((∀ handle script, w.EndsWithin (w.timeout / w.minInterval) handle s script) ↔
      s.now + w.timeout < lastMoment ∧ (0 < w.minInterval ∨ w.timeout = 0)) := by
  have hneeded : ∀ bound, (∀ handle script, w.EndsWithin bound handle s script) →
      s.now + w.timeout < lastMoment ∧ (0 < w.minInterval ∨ w.timeout = 0) := by
    intro bound hends
    refine ⟨shown_of_endsWithin (hends Running.operation fun _ => .ok 0 Running.answer), ?_⟩
    rcases Nat.eq_zero_or_pos w.minInterval with hm | hm
    · rcases Nat.eq_zero_or_pos w.timeout with ht | ht
      · exact Or.inr ht
      · have hspins : ¬ w.EndsWithin bound Running.operation s fun _ => .ok 0 Running.answer :=
          not_endsWithin_of_no_pause hm ht (by decide) (Running.path?_operation _)
            Running.ofAnswer_answer
        exact absurd (hends _ _) hspins
    · exact Or.inl hm
  have henough : s.now + w.timeout < lastMoment ∧ (0 < w.minInterval ∨ w.timeout = 0) →
      ∀ handle script, w.EndsWithin (w.timeout / w.minInterval) handle s script :=
    fun h _ _ => endsWithin_of_paced h.1 h.2
  exact ⟨⟨fun ⟨bound, h⟩ => hneeded bound h, fun h => ⟨_, henough h⟩⟩, hneeded _, henough⟩

namespace Configured

def settings (pause : Nat) : Settings :=
  { Settings.blank with operationTimeoutSecs := some 1, pollIntervalMs := some pause }

def waiter (pause : Nat) : Waiter :=
  Lifecycle.waiter Route.kind ((settings pause).context ⟨some "p1", none, none⟩)
    (Keyed.ofList [("project", "p1"), ("name", "to-nat")]) "Creating" Route.kind.createTimeout

def session : Session := .start [] fun n => ⟨n⟩

theorem smallest_pause_ends :
    (waiter 1).minInterval = Duration.ofMillis 1 ∧
    ∀ handle script, (waiter 1).EndsWithin 1000 handle session script :=
  ⟨rfl, (endless_wait_bounded_iff (waiter 1) session).2.2 ⟨by decide, .inl (by decide)⟩⟩

theorem no_pause_never_ends :
    (settings 0).pollIntervalMs = some 0 ∧ (waiter 0).minInterval = 0 ∧
    (waiter 0).timeout = Duration.ofSecs 1 ∧
    ¬ ∃ bound, (waiter 0).EndsWithin bound Running.operation session
      fun _ => .ok 0 Running.answer := by
  refine ⟨rfl, rfl, rfl, ?_⟩
  rintro ⟨bound, hends⟩
  exact not_endsWithin_of_no_pause rfl (by decide) (by decide) (Running.path?_operation _)
    Running.ofAnswer_answer hends

end Configured

end Waiter

end Reconcile
