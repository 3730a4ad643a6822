import Reconcile.Proofs.Waiting.Timeline

namespace Reconcile.Waiter

variable {w : Waiter} {start interval : Duration} {replies rest : List Reply} {reply : Reply}
  {op : Operation} {before : Phase} {s : Session} {path : String}

def TimedOut (w : Waiter) (start : Duration) (o : Except Failure Operation × Session) : Prop :=
  o.1 = .error (.timeout w.description w.timeout) ∧ o.2.now = start + w.timeout

@[simp] theorem now_noteChange : (w.noteChange op before s).now = s.now := by
  unfold noteChange
  split <;> rfl

theorem giveUp_timedOut (h : s.now = start + w.timeout) : w.TimedOut start (w.giveUp start s) := by
  refine ⟨?_, h⟩
  simp only [giveUp, h, Nat.add_sub_cancel_left]

def roused (w : Waiter) (start interval : Duration) (op : Operation) (before : Phase)
    (s : Session) : Session :=
  (w.noteChange op before s).pass (min interval (start + w.timeout - s.now))

theorem now_roused (h : s.now + interval < start + w.timeout) :
    (w.roused start interval op before s).now = s.now + interval := by
  have hmin : min interval (start + w.timeout - s.now) = interval := by
    apply Nat.min_eq_left
    lia
  simp [roused, Session.pass, hmin]

theorem poll_of_done (h : op.phase ≠ .polling) :
    (w.poll start replies interval op before s).1 = op.verdict ∧
    (w.poll start replies interval op before s).2.now = s.now := by
  rcases op.phase_cases with hs | hf | hp
  · unfold poll
    simp [hs, succeed, Session.note, Operation.verdict_of_succeeded hs]
  · unfold poll
    simp [hf, fail, Session.note, Operation.verdict_of_failed hf]
  · exact absurd hp h

theorem poll_of_polling (h : op.phase = .polling) (hdue : s.now + interval < start + w.timeout) :
    w.poll start replies interval op before s =
      match op.path? w.project with
      | none => (.error (.transport none .unnamedOperation), w.roused start interval op before s)
      | some path =>
          let request := w.pollRequest path
          let s := w.roused start interval op before s
          match replies with
          | [] => (.error Session.exhausted, s.record request)
          | reply :: rest =>
              match s.await (start + w.timeout - s.now) request reply rest with
              | (none, s) => w.giveUp start s
              | (some answer, s) =>
                  match w.judge op answer s with
                  | .error ending => ending
                  | .ok op => w.poll start rest (w.nextInterval interval) op .polling s := by
  have hnow : ¬ start + w.timeout ≤ s.now := by lia
  have hthen : ¬ start + w.timeout ≤ (w.roused start interval op before s).now := by
    rw [now_roused hdue]
    lia
  have hroused : (w.noteChange op before s).pass (min interval (start + w.timeout - s.now)) =
      w.roused start interval op before s := rfl
  rw [poll.eq_def]
  cases hpath : op.path? w.project with
  | none => simp only [h, now_noteChange, hnow, if_false, hroused, hthen, hpath]
  | some path =>
      cases replies with
      | nil => simp only [h, now_noteChange, hnow, if_false, hroused, hthen, hpath]
      | cons reply rest =>
          rcases hawait : (w.roused start interval op before s).await
            (start + w.timeout - (w.roused start interval op before s).now) (w.pollRequest path)
            reply rest with ⟨_ | answer, after⟩
          · simp only [h, now_noteChange, hnow, if_false, hroused, hthen, hpath, hawait]
          · cases hjudge : w.judge op answer after with
            | error ending =>
                simp only [h, now_noteChange, hnow, if_false, hroused, hthen, hpath, hawait, hjudge]
            | ok next =>
                simp only [h, now_noteChange, hnow, if_false, hroused, hthen, hpath, hawait, hjudge]

theorem poll_of_expired (h : op.phase = .polling) (hnow : s.now ≤ start + w.timeout)
    (hdue : start + w.timeout ≤ s.now + interval) :
    w.TimedOut start (w.poll start replies interval op before s) := by
  have hmin : min interval (start + w.timeout - s.now) = start + w.timeout - s.now := by
    apply Nat.min_eq_right
    lia
  have hthen : s.now + (start + w.timeout - s.now) = start + w.timeout := by lia
  unfold poll
  simp only [h, now_noteChange]
  split
  · exact giveUp_timedOut (by rw [now_noteChange]; lia)
  · rw [if_pos (by simp [Session.pass, hmin, hthen])]
    exact giveUp_timedOut (by simp [Session.pass, hmin, hthen])

theorem poll_of_unnamed (h : op.phase = .polling) (hdue : s.now + interval < start + w.timeout)
    (hpath : op.path? w.project = none) :
    (w.poll start replies interval op before s).1 = .error (.transport none .unnamedOperation) ∧
    (w.poll start replies interval op before s).2.now = s.now + interval := by
  rw [poll_of_polling h hdue]
  simp only [hpath]
  exact ⟨trivial, now_roused hdue⟩

theorem poll_of_spent (before : Phase) (h : op.phase = .polling)
    (hdue : s.now + interval < start + w.timeout)
    (hpath : op.path? w.project = some path) :
    (w.poll start [] interval op before s).1 = .error Session.exhausted ∧
    (w.poll start [] interval op before s).2.now = s.now + interval := by
  rw [poll_of_polling h hdue]
  simp only [hpath]
  exact ⟨trivial, now_roused hdue⟩

theorem poll_of_late (h : op.phase = .polling) (hdue : s.now + interval < start + w.timeout)
    (hpath : op.path? w.project = some path)
    (hlate : start + w.timeout < s.now + interval + reply.delay) :
    w.TimedOut start (w.poll start (reply :: rest) interval op before s) := by
  have hroused : (w.roused start interval op before s).now = s.now + interval := now_roused hdue
  have hcut : ¬ reply.delay ≤ start + w.timeout - (s.now + interval) := by lia
  rw [poll_of_polling h hdue]
  simp only [hpath, Session.await, hroused, hcut, if_false]
  apply giveUp_timedOut
  simp only [Session.pass, Session.record, hroused]
  lia

def informed (w : Waiter) (start interval : Duration) (op : Operation) (before : Phase)
    (s : Session) (path : String) (reply : Reply) (rest : List Reply) : Session :=
  Session.pass
    { (w.roused start interval op before s).record (w.pollRequest path) with replies := rest }
    reply.delay

theorem now_informed (h : s.now + interval < start + w.timeout) :
    (w.informed start interval op before s path reply rest).now =
      s.now + interval + reply.delay := by
  simp only [informed, Session.pass, Session.record, now_roused h]

theorem poll_of_answered (h : op.phase = .polling) (hdue : s.now + interval < start + w.timeout)
    (hpath : op.path? w.project = some path)
    (hinTime : s.now + interval + reply.delay ≤ start + w.timeout) :
    w.poll start (reply :: rest) interval op before s =
      match w.judge op (reply.answer (w.pollRequest path))
          (w.informed start interval op before s path reply rest) with
      | .error ending => ending
      | .ok next => w.poll start rest (w.nextInterval interval) next .polling
          (w.informed start interval op before s path reply rest) := by
  have hroused : (w.roused start interval op before s).now = s.now + interval := now_roused hdue
  have hleft : reply.delay ≤ start + w.timeout - (s.now + interval) := by lia
  rw [poll_of_polling h hdue]
  simp only [hpath, Session.await, hroused, hleft, if_true]
  rfl

theorem judge_of_error (w : Waiter) (op : Operation) (s : Session) (e : Failure) :
    ∃ ending, w.judge op (.error e) s = .error ending ∧ ending.1 = .error (op.refusal e) ∧
      ending.2.now = s.now := by
  refine ⟨_, rfl, ?_, ?_⟩
  · unfold Operation.refusal
    split <;> rfl
  · split <;> rfl

theorem judge_of_unreadable {body : Json} {e : Failure} (h : Operation.ofAnswer body = .error e) :
    w.judge op (.ok body) s = .error (.error e, s) := by
  simp only [judge, h]

theorem judge_of_operation {body : Json} {next : Operation}
    (h : Operation.ofAnswer body = .ok next) : w.judge op (.ok body) s = .ok next := by
  simp only [judge, h]

theorem judge_eq_ok {answer : Except Failure Json} {next : Operation}
    (h : w.judge op answer s = .ok next) :
    ∃ body, answer = .ok body ∧ Operation.ofAnswer body = .ok next := by
  unfold judge at h
  split at h
  · cases h
  · next body =>
    split at h
    · cases h
    · next hbody =>
      rw [Except.ok.injEq] at h
      exact ⟨body, rfl, h ▸ hbody⟩

section Simulation

variable {script : Nat → Reply} {handle : Operation} {k : Nat} {t m : Duration}
  {result : Except Failure Operation}

def Remains (script : Nat → Reply) (k : Nat) (replies : List Reply) : Prop :=
  ∀ j, replies.getD j Session.spent = script (k + j)

theorem Remains.tail (h : Remains script k (reply :: rest)) : Remains script (k + 1) rest := by
  intro j
  have hj := h (j + 1)
  simpa [Nat.add_assoc, Nat.add_comm 1 j] using hj

theorem Remains.head (h : Remains script k (reply :: rest)) : script k = reply := by
  simpa using (h 0).symm

theorem Remains.nil (h : Remains script k []) : script k = Session.spent := by
  simpa using (h 0).symm

theorem Remains.answered (hleft : Remains script k (reply :: rest)) (hp : op.phase = .polling)
    (hdue : s.now + w.pause k < start + w.timeout) (hpath : op.path? w.project = some path)
    (hinTime : s.now + w.pause k + reply.delay ≤ start + w.timeout) :
    w.Answered (start + w.timeout) script k s.now op (s.now + w.pause k + reply.delay)
      (reply.answer (w.pollRequest path)) := by
  refine ⟨hp, hdue, ⟨path, hpath, ?_⟩, ?_, hinTime⟩ <;> rw [hleft.head]

theorem Answered.of_nil {answer : Except Failure Json}
    (ha : w.Answered (start + w.timeout) script k t op m answer) (hleft : Remains script k []) :
    answer = .error Session.exhausted ∧ m = t + w.pause k := by
  obtain ⟨path, _, hanswer⟩ := ha.asked
  have harrival := ha.arrival
  rw [hleft.nil] at hanswer harrival
  exact ⟨hanswer, harrival⟩

theorem Answered.poll_cons {answer : Except Failure Json} (before : Phase)
    (ha : w.Answered (start + w.timeout) script k s.now op m answer)
    (hleft : Remains script k (reply :: rest)) :
    ∃ s' : Session, s'.now = m ∧
      w.poll start (reply :: rest) (w.pause k) op before s =
        match w.judge op answer s' with
        | .error ending => ending
        | .ok next => w.poll start rest (w.pause (k + 1)) next .polling s' := by
  obtain ⟨path, hpath, hanswer⟩ := ha.asked
  have harrival := ha.arrival
  have hinTime := ha.inTime
  rw [hleft.head] at hanswer harrival
  rw [harrival] at hinTime
  refine ⟨w.informed start (w.pause k) op before s path reply rest, ?_, ?_⟩
  · rw [now_informed ha.due, harrival]
  · rw [poll_of_answered ha.unfinished ha.due hpath hinTime, ← hanswer]
    rfl

theorem Holds.exists_poll (before : Phase) (hscript : Remains script 0 replies)
    (h : w.Holds s.now script handle k t op) :
    ∃ left before' s', Remains script k left ∧ s'.now = t ∧
      w.poll s.now replies w.minInterval handle before s =
        w.poll s.now left (w.pause k) op before' s' := by
  -- After `k` replies the loop stands at the moment of the last one, with its operation.
  induction h with
  | handle => exact ⟨replies, before, s, hscript, rfl, rfl⟩
  | @reply k t m op next body hh ha hnext ih =>
      obtain ⟨left, before', s', hleft, rfl, heq⟩ := ih
      cases left with
      | nil => cases (ha.of_nil hleft).1
      | cons reply rest =>
          obtain ⟨s'', hnow, hpoll⟩ := ha.poll_cons before' hleft
          refine ⟨rest, .polling, s'', hleft.tail, hnow, ?_⟩
          rw [heq, hpoll, judge_of_operation hnext]

theorem Decides.poll (hscript : Remains script 0 replies)
    (h : w.Decides s.now script handle m result) :
    (w.poll s.now replies w.minInterval handle before s).1 = result ∧
    (w.poll s.now replies w.minInterval handle before s).2.now = m := by
  cases h with
  | done hh hp =>
      obtain ⟨left, before', s', _, hnow, heq⟩ := hh.exists_poll before hscript
      rw [heq, ← hnow]
      exact poll_of_done hp
  | @refused k t _ op e hh ha =>
      obtain ⟨left, before', s', hleft, rfl, heq⟩ := hh.exists_poll before hscript
      rw [heq]
      cases left with
      | nil =>
          obtain ⟨path, hpath, _⟩ := ha.asked
          obtain ⟨hanswer, hm⟩ := ha.of_nil hleft
          rw [Except.error.injEq] at hanswer
          rw [hanswer, hm]
          exact poll_of_spent before' ha.unfinished ha.due hpath
      | cons reply rest =>
          obtain ⟨s'', rfl, hpoll⟩ := ha.poll_cons before' hleft
          obtain ⟨ending, hjudge, hresult, hmoment⟩ := judge_of_error w op s'' e
          rw [hpoll, hjudge]
          exact ⟨hresult, hmoment⟩
  | @unreadable k t _ op body e hh ha he =>
      obtain ⟨left, before', s', hleft, rfl, heq⟩ := hh.exists_poll before hscript
      rw [heq]
      cases left with
      | nil => cases (ha.of_nil hleft).1
      | cons reply rest =>
          obtain ⟨s'', hnow, hpoll⟩ := ha.poll_cons before' hleft
          rw [hpoll, judge_of_unreadable he]
          exact ⟨rfl, hnow⟩
  | unnamed hh hp hdue hn =>
      obtain ⟨left, before', s', _, rfl, heq⟩ := hh.exists_poll before hscript
      rw [heq]
      exact poll_of_unnamed hp hdue hn

theorem Holds.decides_or_polls (h : w.Holds start script handle k t op) :
    (∃ m result, w.Decides start script handle m result) ∨
    op.phase = .polling ∧ (start + w.timeout ≤ t + w.pause k ∨
      t + w.pause k < start + w.timeout ∧ ∃ path, op.path? w.project = some path) := by
  by_cases hp : op.phase = .polling
  · rcases Nat.lt_or_ge (t + w.pause k) (start + w.timeout) with hdue | hlate
    · cases hpath : op.path? w.project with
      | none => exact Or.inl ⟨_, _, .unnamed h hp hdue hpath⟩
      | some path => exact Or.inr ⟨hp, Or.inr ⟨hdue, path, rfl⟩⟩
    · exact Or.inr ⟨hp, Or.inl hlate⟩
  · exact Or.inl ⟨_, _, .done h hp⟩

theorem poll_timedOut_or_decides (hleft : Remains script k replies)
    (h : w.Holds start script handle k s.now op) :
    w.TimedOut start (w.poll start replies (w.pause k) op before s) ∨
    ∃ m result, w.Decides start script handle m result := by
  -- Over the replies left; the timeline up to here is the invariant.
  induction replies generalizing k op before s with
  | nil =>
      rcases h.decides_or_polls with hd | ⟨hp, hlate | ⟨hdue, path, hpath⟩⟩
      · exact Or.inr hd
      · exact Or.inl (poll_of_expired hp h.between.2 hlate)
      · have ha : w.Answered (start + w.timeout) script k s.now op (s.now + w.pause k)
            (.error Session.exhausted) := by
          refine ⟨hp, hdue, ⟨path, hpath, ?_⟩, ?_, Nat.le_of_lt hdue⟩ <;> rw [hleft.nil] <;> rfl
        exact Or.inr ⟨_, _, .refused h ha⟩
  | cons reply rest ih =>
      rcases h.decides_or_polls with hd | ⟨hp, hlate | ⟨hdue, path, hpath⟩⟩
      · exact Or.inr hd
      · exact Or.inl (poll_of_expired hp h.between.2 hlate)
      rcases Nat.lt_or_ge (start + w.timeout) (s.now + w.pause k + reply.delay) with hcut | hinTime
      · exact Or.inl (poll_of_late hp hdue hpath hcut)
      have ha := hleft.answered hp hdue hpath hinTime
      cases hanswer : reply.answer (w.pollRequest path) with
      | error e =>
          rw [hanswer] at ha
          exact Or.inr ⟨_, _, .refused h ha⟩
      | ok body =>
          rw [hanswer] at ha
          cases hnext : Operation.ofAnswer body with
          | error e => exact Or.inr ⟨_, _, .unreadable h ha hnext⟩
          | ok next =>
              obtain ⟨s', hnow, hpoll⟩ := ha.poll_cons before hleft
              rw [hpoll, judge_of_operation hnext]
              apply ih hleft.tail
              rw [hnow]
              exact .reply h ha hnext

end Simulation

theorem remains_reply (s : Session) : Remains s.reply 0 s.replies := by
  intro j
  rw [Nat.zero_add]
  rfl

theorem Decides.wait {handle : Operation} {m : Duration} {result : Except Failure Operation}
    (h : w.Decides s.now s.reply handle m result) :
    (w.wait handle s).1 = result ∧ (w.wait handle s).2.now = m :=
  h.poll (remains_reply s)

theorem wait_timedOut_or_decides (w : Waiter) (handle : Operation) (s : Session) :
    w.TimedOut s.now (w.wait handle s) ∨ ∃ m result, w.Decides s.now s.reply handle m result :=
  poll_timedOut_or_decides (k := 0) (remains_reply s) .handle

theorem now_wait_le (w : Waiter) (handle : Operation) (s : Session) :
    (w.wait handle s).2.now ≤ s.now + w.timeout := by
  rcases wait_timedOut_or_decides w handle s with h | ⟨m, result, h⟩
  · exact Nat.le_of_eq h.2
  · rw [h.wait.2]
    exact h.between.2

theorem wait_eq_ok_iff {handle op : Operation} :
    (w.wait handle s).1 = .ok op ↔ ∃ m, w.Decides s.now s.reply handle m (.ok op) := by
  constructor
  · intro h
    rcases wait_timedOut_or_decides w handle s with ht | ⟨m, result, hd⟩
    · rw [ht.1] at h
      cases h
    · rw [hd.wait.1] at h
      exact ⟨m, h ▸ hd⟩
  · rintro ⟨m, hd⟩
    exact hd.wait.1

theorem wait_error_isNotFound {handle : Operation} {e : Failure}
    (h : (w.wait handle s).1 = .error e) : e.isNotFound = false := by
  rcases wait_timedOut_or_decides w handle s with ht | ⟨m, result, hd⟩
  · rw [ht.1, Except.error.injEq] at h
    subst h
    rfl
  · rw [hd.wait.1] at h
    subst h
    rcases hd.result_cases with ⟨_, _, h⟩ | ⟨_, _, _, _, h⟩ | ⟨_, hn, _, h⟩
    · cases h
    · cases h
      rfl
    · cases h
      exact hn

end Reconcile.Waiter
