import Reconcile.Proofs.Waiting.Replies

namespace Reconcile.Waiter

inductive Asks (w : Waiter) (start : Duration) (script : Nat → Reply) (handle : Operation) :
    Nat → Sent → Prop
  | due {k : Nat} {t : Duration} {op : Operation} {path : String} :
      w.Holds start script handle k t op → op.phase = .polling →
      t + w.pause k < start + w.timeout → op.path? w.project = some path →
      Asks w start script handle k ⟨w.pollRequest path, t + w.pause k⟩

def Polls (w : Waiter) (start : Duration) (script : Nat → Reply) (handle : Operation) (k : Nat)
    (polls : List Sent) : Prop :=
  ∀ i q, polls[i]? = some q ↔ w.Asks start script handle (k + i) q

section Timeline

variable {w : Waiter} {start t t' m m' : Duration} {script other : Nat → Reply}
  {handle op op' : Operation} {k i : Nat} {answer answer' : Except Failure Json} {q q' : Sent}
  {polls polls' : List Sent}

theorem Answered.unique (h : w.Answered start script k t op m answer)
    (h' : w.Answered start script k t op m' answer') : m' = m ∧ answer' = answer := by
  obtain ⟨path, hpath, hanswer⟩ := h.asked
  obtain ⟨path', hpath', hanswer'⟩ := h'.asked
  rw [hpath, Option.some.injEq] at hpath'
  rw [h.arrival, h'.arrival, hanswer, hanswer', hpath']
  exact ⟨rfl, rfl⟩

theorem Holds.unique (h : w.Holds start script handle k t op)
    (h' : w.Holds start script handle k t' op') : t' = t ∧ op' = op := by
  induction h generalizing t' op' with
  | handle =>
      cases h'
      exact ⟨rfl, rfl⟩
  | reply _ ha hnext ih =>
      cases h' with
      | reply hh' ha' hnext' =>
          obtain ⟨rfl, rfl⟩ := ih hh'
          obtain ⟨rfl, hbody⟩ := ha.unique ha'
          rw [Except.ok.injEq] at hbody
          subst hbody
          rw [hnext, Except.ok.injEq] at hnext'
          exact ⟨rfl, hnext'.symm⟩

theorem Holds.next (h : w.Holds start script handle k t op)
    (h' : w.Holds start script handle (k + 1) m op') :
    ∃ body, w.Answered (start + w.timeout) script k t op m (.ok body) ∧
      Operation.ofAnswer body = .ok op' := by
  cases h' with
  | reply hh' ha' hnext' =>
      obtain ⟨rfl, rfl⟩ := h.unique hh'
      exact ⟨_, ha', hnext'⟩

theorem Asks.unique (h : w.Asks start script handle k q) (h' : w.Asks start script handle k q') :
    q' = q := by
  obtain ⟨hh, _, _, hpath⟩ := h
  obtain ⟨hh', _, _, hpath'⟩ := h'
  obtain ⟨rfl, rfl⟩ := hh.unique hh'
  rw [hpath, Option.some.injEq] at hpath'
  rw [hpath']

theorem Holds.asked (h : w.Holds start script handle (k + 1) t op) :
    ∃ q, w.Asks start script handle k q := by
  cases h with
  | reply hh ha _ =>
      obtain ⟨path, hpath, _⟩ := ha.asked
      exact ⟨_, .due hh ha.unfinished ha.due hpath⟩

theorem Asks.earlier (h : w.Asks start script handle (k + i) q) :
    ∃ q', w.Asks start script handle k q' := by
  induction i generalizing q with
  | zero => exact ⟨q, h⟩
  | succ i ih =>
      obtain ⟨hh, _, _, _⟩ := h
      obtain ⟨q', hq'⟩ := hh.asked
      exact ih hq'

theorem Asks.congr (hpaced : w.Paced) (heq : ∀ k < w.timeout / w.minInterval, script k = other k)
    (h : w.Asks start script handle k q) : w.Asks start other handle k q := by
  obtain ⟨hh, hp, hdue, hpath⟩ := h
  exact .due (hh.congr hpaced heq) hp hdue hpath

theorem Asks.lt (hpaced : w.Paced) (h : w.Asks start script handle k q) :
    k < w.timeout / w.minInterval := by
  obtain ⟨hh, _, hdue, _⟩ := h
  exact hh.poll_lt hdue hpaced

theorem Polls.nil (h : ∀ q, ¬ w.Asks start script handle k q) :
    w.Polls start script handle k [] := by
  intro i q
  constructor
  · intro hq
    cases hq
  · intro hq
    obtain ⟨q', hq'⟩ := hq.earlier
    exact absurd hq' (h q')

theorem Polls.cons (h : w.Asks start script handle k q)
    (hpolls : w.Polls start script handle (k + 1) polls) :
    w.Polls start script handle k (q :: polls) := by
  intro i q'
  cases i with
  | zero =>
      rw [List.getElem?_cons_zero, Option.some.injEq]
      constructor
      · rintro rfl
        exact h
      · intro h'
        exact (h.unique h').symm
  | succ i =>
      rw [List.getElem?_cons_succ, hpolls i q', Nat.add_right_comm]
      rfl

theorem Polls.get?_iff (h : w.Polls start script handle 0 polls) :
    polls[i]? = some q ↔ w.Asks start script handle i q := by
  rw [h i q, Nat.zero_add]

theorem Polls.unique (h : w.Polls start script handle k polls)
    (h' : w.Polls start script handle k polls') : polls' = polls := by
  apply List.ext_getElem?
  intro i
  apply Option.ext
  intro q
  rw [h i q, h' i q]

theorem Polls.congr (hpaced : w.Paced) (heq : ∀ k < w.timeout / w.minInterval, script k = other k)
    (h : w.Polls start script handle k polls) : w.Polls start other handle k polls := by
  intro i q
  rw [h i q]
  exact ⟨.congr hpaced heq, .congr hpaced fun k hk => (heq k hk).symm⟩

theorem Polls.mem (h : w.Polls start script handle k polls) (hq : q ∈ polls) :
    ∃ i, w.Asks start script handle (k + i) q := by
  obtain ⟨i, hi⟩ := List.mem_iff_getElem?.1 hq
  exact ⟨i, (h i q).1 hi⟩

theorem Polls.length_le (hpaced : w.Paced) (h : w.Polls start script handle 0 polls) :
    polls.length ≤ w.timeout / w.minInterval := by
  apply Nat.le_of_not_lt
  intro hlong
  have hsome := List.getElem?_eq_getElem hlong
  exact Nat.lt_irrefl _ ((h.get?_iff.1 hsome).lt hpaced)

end Timeline

section Loop

variable {w : Waiter} {start : Duration} {script : Nat → Reply} {handle op : Operation} {k : Nat}
  {replies : List Reply} {before : Phase} {s : Session} {path : String}

theorem sent_poll_of_unasked (h : w.Holds start script handle k s.now op)
    (hnone : ∀ q, ¬ w.Asks start script handle k q) :
    (w.poll start replies (w.pause k) op before s).2.sent = s.sent := by
  rcases w.kept_poll_or_due start replies (w.pause k) op before s with hkept | ⟨hp, hdue⟩
  · exact hkept.sent
  · cases hpath : op.path? w.project with
    | none =>
        rw [poll_of_polling hp hdue, hpath]
        exact sent_roused
    | some path => exact absurd (Asks.due h hp hdue hpath) (hnone _)

theorem sent_poll_of_late {reply : Reply} {rest : List Reply} (hp : op.phase = .polling)
    (hdue : s.now + w.pause k < start + w.timeout) (hpath : op.path? w.project = some path)
    (hlate : start + w.timeout < s.now + w.pause k + reply.delay) :
    (w.poll start (reply :: rest) (w.pause k) op before s).2.sent =
      s.sent ++ [⟨w.pollRequest path, s.now + w.pause k⟩] := by
  have hroused : (w.roused start (w.pause k) op before s).now = s.now + w.pause k :=
    now_roused hdue
  have hcut : ¬ reply.delay ≤ start + w.timeout - (s.now + w.pause k) := by lia
  rw [poll_of_polling hp hdue]
  simp only [hpath, Session.await, hroused, hcut, if_false]
  simp [giveUp, Session.note, Session.pass, Session.record, hroused]

theorem sent_informed {reply : Reply} {rest : List Reply}
    (hdue : s.now + w.pause k < start + w.timeout) :
    (w.informed start (w.pause k) op before s path reply rest).sent =
      s.sent ++ [⟨w.pollRequest path, s.now + w.pause k⟩] := by
  simp [informed, Session.pass, Session.record, now_roused hdue]

theorem poll_last_or_next (before : Phase) (h : w.Holds start script handle k s.now op)
    (hp : op.phase = .polling) (hdue : s.now + w.pause k < start + w.timeout)
    (hpath : op.path? w.project = some path) (hleft : Remains script k replies) :
    ((w.poll start replies (w.pause k) op before s).2.sent =
        s.sent ++ [⟨w.pollRequest path, s.now + w.pause k⟩] ∧
      ∀ m next, ¬ w.Holds start script handle (k + 1) m next) ∨
    ∃ reply rest next s', replies = reply :: rest ∧ Remains script (k + 1) rest ∧
      w.Holds start script handle (k + 1) s'.now next ∧
      s'.sent = s.sent ++ [⟨w.pollRequest path, s.now + w.pause k⟩] ∧
      w.poll start replies (w.pause k) op before s =
        w.poll start rest (w.pause (k + 1)) next .polling s' := by
  cases replies with
  | nil =>
      left
      constructor
      · rw [poll_of_polling hp hdue, hpath]
        simp [Session.record, now_roused hdue]
      · intro m next hnext
        obtain ⟨body, ha, _⟩ := h.next hnext
        cases (ha.of_nil hleft).1
  | cons reply rest =>
      rcases Nat.lt_or_ge (start + w.timeout) (s.now + w.pause k + reply.delay) with hlate | hinTime
      · left
        refine ⟨sent_poll_of_late hp hdue hpath hlate, ?_⟩
        intro m next hnext
        obtain ⟨body, ha, _⟩ := h.next hnext
        have harrival := ha.arrival
        have hlimit := ha.inTime
        rw [hleft.head] at harrival
        lia
      rw [poll_of_answered hp hdue hpath hinTime]
      have ha := hleft.answered hp hdue hpath hinTime
      split
      · next ending hjudge =>
          left
          refine ⟨by rw [(kept_judge hjudge).sent, sent_informed hdue], ?_⟩
          intro m next hnext
          obtain ⟨body, ha', hbody⟩ := h.next hnext
          obtain ⟨_, hanswer⟩ := ha.unique ha'
          rw [← hanswer, judge_of_operation hbody] at hjudge
          cases hjudge
      · next next hjudge =>
          right
          refine ⟨reply, rest, next, _, rfl, hleft.tail, ?_, sent_informed hdue, rfl⟩
          rw [now_informed hdue]
          obtain ⟨body, hanswer, hbody⟩ := judge_eq_ok hjudge
          rw [hanswer] at ha
          exact .reply h ha hbody

theorem sent_poll_or_next (before : Phase) (h : w.Holds start script handle k s.now op)
    (hleft : Remains script k replies) :
    (∃ polls, (w.poll start replies (w.pause k) op before s).2.sent = s.sent ++ polls ∧
      w.Polls start script handle k polls) ∨
    ∃ q reply rest next s', w.Asks start script handle k q ∧ replies = reply :: rest ∧
      Remains script (k + 1) rest ∧ w.Holds start script handle (k + 1) s'.now next ∧
      s'.sent = s.sent ++ [q] ∧
      w.poll start replies (w.pause k) op before s =
        w.poll start rest (w.pause (k + 1)) next .polling s' := by
  by_cases hasked : ∃ q, w.Asks start script handle k q
  · obtain ⟨_, hh, hp, hdue, hpath⟩ := hasked
    obtain ⟨rfl, rfl⟩ := h.unique hh
    have hasks := Asks.due h hp hdue hpath
    rcases poll_last_or_next before h hp hdue hpath hleft with ⟨hsent, hlast⟩ |
      ⟨reply, rest, next, s', hcons, hnext⟩
    · left
      refine ⟨_, hsent, .cons hasks (.nil ?_)⟩
      rintro _ ⟨hheld, _, _, _⟩
      exact hlast _ _ hheld
    · exact Or.inr ⟨_, reply, rest, next, s', hasks, hcons, hnext⟩
  · left
    have hnone : ∀ q, ¬ w.Asks start script handle k q := fun q hq => hasked ⟨q, hq⟩
    exact ⟨[], by rw [sent_poll_of_unasked h hnone, List.append_nil], .nil hnone⟩

theorem sent_poll (hleft : Remains script k replies) (h : w.Holds start script handle k s.now op) :
    ∃ polls, (w.poll start replies (w.pause k) op before s).2.sent = s.sent ++ polls ∧
      w.Polls start script handle k polls := by
  -- Over the replies left; the timeline up to here is the invariant.
  induction replies generalizing k op before s with
  | nil =>
      rcases sent_poll_or_next before h hleft with hsent | ⟨_, _, _, _, _, _, hcons, _⟩
      · exact hsent
      · cases hcons
  | cons reply rest ih =>
      rcases sent_poll_or_next before h hleft with hsent |
        ⟨q, _, _, next, s', hasks, hcons, hleft', h', hsent, heq⟩
      · exact hsent
      · cases hcons
        obtain ⟨polls, hlater, hpolls⟩ := ih hleft' h'
        refine ⟨q :: polls, ?_, .cons hasks hpolls⟩
        rw [heq, hlater, hsent, List.append_assoc, List.singleton_append]

theorem sent_wait (w : Waiter) (handle : Operation) (s : Session) :
    ∃ polls, (w.wait handle s).2.sent = s.sent ++ polls ∧
      w.Polls s.now s.reply handle 0 polls :=
  sent_poll (k := 0) (remains_reply s) .handle

end Loop

def leaves (w : Waiter) (handle : Operation) (s : Session) : Session :=
  ((w.wait? handle s).map (·.2)).getD s

theorem leaves_of_shown {w : Waiter} {handle : Operation} {s : Session}
    (h : s.now + w.timeout < lastMoment) : w.leaves handle s = (w.wait handle s).2 := by
  rw [leaves, wait?_of_shown h]
  rfl

theorem leaves_of_beyond {w : Waiter} {handle : Operation} {s : Session}
    (h : ¬ s.now + w.timeout < lastMoment) : w.leaves handle s = s := by
  rw [leaves, wait?_of_beyond h]
  rfl

theorem sent_leaves (w : Waiter) (handle : Operation) (s : Session) :
    ∃ polls, (w.leaves handle s).sent = s.sent ++ polls ∧
      (s.now + w.timeout < lastMoment → w.Polls s.now s.reply handle 0 polls) ∧
      (¬ s.now + w.timeout < lastMoment → polls = []) := by
  by_cases hshown : s.now + w.timeout < lastMoment
  · obtain ⟨polls, hsent, hpolls⟩ := w.sent_wait handle s
    exact ⟨polls, by rw [leaves_of_shown hshown, hsent], fun _ => hpolls, fun h => absurd hshown h⟩
  · exact ⟨[], by rw [leaves_of_beyond hshown, List.append_nil], fun h => absurd h hshown,
      fun _ => rfl⟩

end Reconcile.Waiter
