import Reconcile.Proofs.Waiting.Deadline

namespace Reconcile

def Session.Plain (s : Session) : Prop := ∀ reply ∈ s.replies, reply.Plain

theorem Session.Plain.reply {s : Session} (h : s.Plain) (k : Nat) : (s.reply k).Plain := by
  unfold Session.reply
  rw [List.getD_eq_getElem?_getD]
  cases hk : s.replies[k]? with
  | none =>
      intro request e he
      simp only [Option.getD_none, spent, Except.error.injEq] at he
      subst he
      exact Or.inl rfl
  | some reply => exact h reply (List.mem_of_getElem? hk)

theorem Session.Plain.of_suffix {s s' : Session} (h : s.Plain) (hs : s'.replies <:+ s.replies) :
    s'.Plain :=
  fun reply hreply => h reply (hs.subset hreply)

structure Session.Continues (s s' : Session) : Prop where
  sent : s.sent <+: s'.sent
  replies : s'.replies <:+ s.replies

structure Session.Kept (s s' : Session) : Prop where
  sent : s'.sent = s.sent
  replies : s'.replies = s.replies

namespace Session

variable {s s' s'' : Session}

theorem Continues.of_eq (hsent : s'.sent = s.sent) (hreplies : s'.replies = s.replies) :
    s.Continues s' :=
  ⟨hsent ▸ List.prefix_refl _, hreplies ▸ List.suffix_refl _⟩

theorem Kept.continues (h : s.Kept s') : s.Continues s' :=
  .of_eq h.sent h.replies

theorem Continues.trans (h : s.Continues s') (h' : s'.Continues s'') : s.Continues s'' :=
  ⟨h.sent.trans h'.sent, h'.replies.trans h.replies⟩

theorem await_eq {left : Duration} {request : Request} {reply : Reply} {rest : List Reply}
    {answer : Option (Except Failure Json)} (h : s.await left request reply rest = (answer, s')) :
    s'.sent = s.sent ++ [⟨request, s.now⟩] ∧ s'.replies = rest := by
  unfold await at h
  dsimp only at h
  split at h
  · cases h
    exact ⟨rfl, rfl⟩
  · cases h
    exact ⟨rfl, rfl⟩

end Session

namespace Waiter

variable {w : Waiter} {start interval : Duration} {replies : List Reply} {op : Operation}
  {before : Phase} {s : Session}

@[simp] theorem sent_noteChange : (w.noteChange op before s).sent = s.sent := by
  unfold noteChange
  split <;> rfl

@[simp] theorem replies_noteChange : (w.noteChange op before s).replies = s.replies := by
  unfold noteChange
  split <;> rfl

@[simp] theorem sent_roused : (w.roused start interval op before s).sent = s.sent :=
  sent_noteChange

@[simp] theorem replies_roused : (w.roused start interval op before s).replies = s.replies :=
  replies_noteChange

theorem kept_judge {answer : Except Failure Json} {ending : Except Failure Operation × Session}
    (h : w.judge op answer s = .error ending) : s.Kept ending.2 := by
  unfold judge at h
  split at h
  · rw [Except.error.injEq] at h
    subst h
    split <;> exact ⟨rfl, rfl⟩
  · split at h
    · rw [Except.error.injEq] at h
      subst h
      exact ⟨rfl, rfl⟩
    · cases h

theorem kept_poll_or_due (w : Waiter) (start : Duration) (replies : List Reply)
    (interval : Duration) (op : Operation) (before : Phase) (s : Session) :
    s.Kept (w.poll start replies interval op before s).2 ∨
    op.phase = .polling ∧ s.now + interval < start + w.timeout := by
  rcases op.phase_cases with hs | hf | hp
  · left
    rw [poll.eq_def]
    simp only [hs, succeed]
    exact ⟨sent_noteChange, replies_noteChange⟩
  · left
    rw [poll.eq_def]
    simp only [hf, fail]
    exact ⟨sent_noteChange, replies_noteChange⟩
  · rcases Nat.lt_or_ge (s.now + interval) (start + w.timeout) with hdue | hlate
    · exact Or.inr ⟨hp, hdue⟩
    · left
      have hmin : min interval (start + w.timeout - s.now) = start + w.timeout - s.now := by
        apply Nat.min_eq_right
        lia
      rw [poll.eq_def]
      simp only [hp]
      split
      · exact ⟨sent_noteChange, replies_noteChange⟩
      · rw [if_pos (by simp [Session.pass, hmin]; lia)]
        exact ⟨sent_noteChange, replies_noteChange⟩

theorem continues_poll (h : s.replies = replies) :
    s.Continues (w.poll start replies interval op before s).2 := by
  induction replies generalizing interval op before s with
  | nil =>
      rcases w.kept_poll_or_due start [] interval op before s with hstill | ⟨hp, hdue⟩
      · exact hstill.continues
      · rw [poll_of_polling hp hdue]
        cases op.path? w.project with
        | none => exact .of_eq sent_roused replies_roused
        | some path => exact ⟨by simp [Session.record], by simp [Session.record]⟩
  | cons reply rest ih =>
      rcases w.kept_poll_or_due start (reply :: rest) interval op before s with hstill |
        ⟨hp, hdue⟩
      · exact hstill.continues
      · rw [poll_of_polling hp hdue]
        cases op.path? w.project with
        | none => exact .of_eq sent_roused replies_roused
        | some path =>
            dsimp only
            split
            · next s' hawait =>
                obtain ⟨hsent, hreplies⟩ := Session.await_eq hawait
                exact ⟨by simp [giveUp, Session.note, hsent],
                  by simp [giveUp, Session.note, hreplies, h]⟩
            · next answer s' hawait =>
                obtain ⟨hsent, hreplies⟩ := Session.await_eq hawait
                have hlater : s.Continues s' := ⟨by simp [hsent], by simp [hreplies, h]⟩
                split
                · next ending hjudge => exact hlater.trans (kept_judge hjudge).continues
                · exact hlater.trans (ih hreplies)

theorem continues_wait (w : Waiter) (op : Operation) (s : Session) :
    s.Continues (w.wait op s).2 :=
  continues_poll rfl

theorem wait_error_kind {e : Failure} (hplain : s.Plain) (h : (w.wait op s).1 = .error e) :
    e.kind ≠ .validation := by
  rcases wait_timedOut_or_decides w op s with ht | ⟨m, result, hd⟩
  · rw [ht.1, Except.error.injEq] at h
    subst h
    exact nofun
  · rw [hd.wait.1] at h
    subst h
    rcases hd.result_cases with ⟨_, _, h⟩ | ⟨_, _, _, _, h⟩ | ⟨_, _, hkind, h⟩
    · cases h
    · cases h
      exact nofun
    · cases h
      rw [hkind hplain.reply]
      exact nofun

end Waiter

end Reconcile
