import Reconcile.Proofs.Network.Collections
import Reconcile.Proofs.Waiting.Polls

namespace Reconcile

namespace Operation

variable {op op' : Operation}

theorem splitOn_place (op : Operation) :
    Text.splitOn '/' op.place.toList = ["global".toList] ∨
      ∃ lead seg, lead ≠ "global".toList ∧ Text.splitOn '/' op.place.toList = [lead, seg] := by
  have hsplit : ∀ lead link : String, '/' ∉ lead.toList →
      Text.splitOn '/' (lead ++ "/" ++ SelfLink.name link).toList =
        [lead.toList, SelfLink.nameChars link.toList] := by
    intro lead link hlead
    have htext : (lead ++ "/" ++ SelfLink.name link).toList =
        lead.toList ++ '/' :: SelfLink.nameChars link.toList := by
      simp [SelfLink.name]
    rw [htext, Text.splitOn_append_sep, Text.splitOn_of_not_mem hlead,
      Text.splitOn_of_not_mem (SelfLink.not_mem_nameChars _), List.singleton_append]
  unfold place
  split
  · exact .inr ⟨_, _, by decide, hsplit "zones" _ (by decide)⟩
  · exact .inr ⟨_, _, by decide, hsplit "regions" _ (by decide)⟩
  · exact .inl (by decide)

theorem place_name_inj
    (h : op.place ++ "/operations/" ++ op.name = op'.place ++ "/operations/" ++ op'.name) :
    op.place = op'.place ∧ op.name = op'.name := by
  have hpieces : ∀ op : Operation,
      Text.splitOn '/' (op.place ++ "/operations/" ++ op.name).toList =
        Text.splitOn '/' op.place.toList ++
          "operations".toList :: Text.splitOn '/' op.name.toList := by
    intro op
    have htext : (op.place ++ "/operations/" ++ op.name).toList =
        op.place.toList ++ '/' :: ("operations".toList ++ '/' :: op.name.toList) := by
      simp
    rw [htext, Text.splitOn_append_sep, Text.splitOn_append_sep,
      Text.splitOn_of_not_mem (show '/' ∉ "operations".toList by decide), List.singleton_append]
  have hback : ∀ {a b : String}, Text.splitOn '/' a.toList = Text.splitOn '/' b.toList → a = b := by
    intro a b hsplit
    apply String.toList_injective
    rw [← Text.join_splitOn '/' a.toList, hsplit, Text.join_splitOn]
  have hlists := congrArg (fun text : String => Text.splitOn '/' text.toList) h
  simp only [hpieces] at hlists
  obtain ⟨hplace, hrest⟩ : Text.splitOn '/' op.place.toList = Text.splitOn '/' op'.place.toList ∧
      "operations".toList :: Text.splitOn '/' op.name.toList =
        "operations".toList :: Text.splitOn '/' op'.name.toList := by
    rcases splitOn_place op with hone | ⟨lead, seg, hlead, htwo⟩ <;>
      rcases splitOn_place op' with hone' | ⟨lead', seg', hlead', htwo'⟩
    · rw [hone, hone'] at hlists ⊢
      exact ⟨rfl, by simpa using hlists⟩
    · rw [hone, htwo', List.singleton_append] at hlists
      exact absurd (List.cons.inj hlists).1.symm hlead'
    · rw [htwo, hone', List.singleton_append] at hlists
      exact absurd (List.cons.inj hlists).1 hlead
    · rw [htwo, htwo'] at hlists ⊢
      simp only [List.cons_append, List.nil_append, List.cons.injEq] at hlists
      obtain ⟨rfl, rfl, -, hname⟩ := hlists
      exact ⟨rfl, by rw [hname]⟩
  exact ⟨hback hplace, hback (List.cons.inj hrest).2⟩

end Operation

namespace Waiter

def look (w : Waiter) (op : Operation) : Request :=
  w.pollRequest ("projects/" ++ w.project ++ "/" ++ op.place ++ "/operations/" ++ op.name)

theorem look_eq (w : Waiter) (op : Operation) :
    w.look op = ⟨.get, w.context.endpoint ++
      ("projects/" ++ w.project ++ "/" ++ op.place ++ "/operations/" ++ op.name), none⟩ := by
  have hrooted : ("projects/" ++ w.project ++ "/" ++ op.place ++ "/operations/" ++
      op.name).toList = "projects/".toList ++
        (w.project ++ "/" ++ op.place ++ "/operations/" ++ op.name).toList := by
    simp only [String.toList_append, List.append_assoc]
  rw [look, pollRequest, Context.url_of_rooted _ hrooted]

theorem look_eq_look_iff {w : Waiter} {op op' : Operation} :
    w.look op = w.look op' ↔ op.name = op'.name ∧ op.place = op'.place := by
  constructor
  · intro h
    have hurl : ∀ op : Operation, (w.look op).url =
        w.context.endpoint ++ ("projects/" ++ w.project ++ "/") ++
          (op.place ++ "/operations/" ++ op.name) := by
      intro op
      rw [look_eq]
      simp only [String.append_assoc]
    have hsame := congrArg Request.url h
    rw [hurl, hurl, String.append_right_inj] at hsame
    exact (Operation.place_name_inj hsame).symm
  · rintro ⟨hname, hplace⟩
    rw [look, look, hname, hplace]

section Asks

variable {w : Waiter} {start t : Duration} {script : Nat → Reply} {handle op : Operation} {k : Nat}
  {q : Sent}

theorem Asks.request (h : w.Asks start script handle k q)
    (hheld : w.Holds start script handle k t op) : q.request = w.look op := by
  obtain ⟨hh, _, _, hpath⟩ := h
  obtain ⟨rfl, rfl⟩ := hh.unique hheld
  rw [look, (Operation.path?_eq_some_iff.1 hpath).2]

theorem Asks.held (h : w.Asks start script handle k q) :
    ∃ t op, w.Holds start script handle k t op := by
  obtain ⟨hh, _, _, _⟩ := h
  exact ⟨_, _, hh⟩

end Asks

/-- Each poll of a wait asks for the operation as the answer before it describes it. All polls ask
for the operation that the wait was given exactly if, whenever one is sent, the operation held then
has kept its name and its place. -/
theorem one_operation_iff (w : Waiter) (handle : Operation) (s : Session) :
    ∃ polls, (w.leaves handle s).sent = s.sent ++ polls ∧
      (∀ k q, polls[k]? = some q →
        ∃ t op, w.Holds s.now s.reply handle k t op ∧ q.request = w.look op) ∧
      ((∀ q ∈ polls, q.request = w.look handle) ↔ (s.now + w.timeout < lastMoment →
        ∀ k t op q, w.Holds s.now s.reply handle k t op → w.Asks s.now s.reply handle k q →
          op.name = handle.name ∧ op.place = handle.place)) := by
  obtain ⟨polls, hsent, hshown, hbeyond⟩ := w.sent_leaves handle s
  refine ⟨polls, hsent, ?_⟩
  by_cases hclock : s.now + w.timeout < lastMoment
  · have hpolls := hshown hclock
    refine ⟨?_, ?_, ?_⟩
    · intro k q hq
      have hasked := hpolls.get?_iff.1 hq
      obtain ⟨t, op, hheld⟩ := hasked.held
      exact ⟨t, op, hheld, hasked.request hheld⟩
    · intro hsame _ k t op q hheld hq
      rw [← look_eq_look_iff (w := w), ← hq.request hheld]
      exact hsame q (List.mem_of_getElem? (hpolls.get?_iff.2 hq))
    · intro hkept q hmem
      obtain ⟨k, hk⟩ := List.mem_iff_getElem?.1 hmem
      have hasked := hpolls.get?_iff.1 hk
      obtain ⟨t, op, hheld⟩ := hasked.held
      rw [hasked.request hheld, look_eq_look_iff]
      exact hkept hclock k t op q hheld hasked
  · rw [hbeyond hclock]
    exact ⟨nofun, iff_of_true nofun fun h => absurd h hclock⟩

namespace Wandering

def waiter : Waiter := ⟨.ofDefaults ⟨none, none, none⟩, "p1", "Creating Address", 10, 2⟩

def handle : Operation :=
  { Operation.blank with
    name := "op-1"
    status := .running
    region := some "https://www.googleapis.com/compute/v1/projects/p1/regions/us-central1" }

def answer (status : String) : Json := .obj [("name", .str "op-1"), ("status", .str status)]

def session : Session := .start [.ok 0 (answer "RUNNING"), .ok 0 (answer "DONE")] fun n => ⟨n⟩

/-- The regional operation is asked for, and then, since the answer does not repeat the region, the
global one of its name, whose end is taken for the end of the first. -/
theorem second_poll_elsewhere :
    (waiter.leaves handle session).sent.map (·.request.url) =
      ["https://compute.googleapis.com/compute/v1/projects/p1/regions/us-central1/operations/op-1",
        "https://compute.googleapis.com/compute/v1/projects/p1/global/operations/op-1"] ∧
    (waiter.wait? handle session).map (·.1) =
      some (.ok { Operation.blank with name := "op-1", status := .done }) ∧
    ¬ ∃ url, ∀ q ∈ (waiter.leaves handle session).sent, q.request.url = url := by
  have hsent : (waiter.leaves handle session).sent.map (·.request.url) =
      ["https://compute.googleapis.com/compute/v1/projects/p1/regions/us-central1/operations/op-1",
        "https://compute.googleapis.com/compute/v1/projects/p1/global/operations/op-1"] := by
    decide +kernel
  refine ⟨hsent, by decide +kernel, ?_⟩
  rintro ⟨url, hurl⟩
  have hall : ∀ u ∈ (waiter.leaves handle session).sent.map (·.request.url), u = url :=
    List.forall_mem_map.2 hurl
  rw [hsent, List.forall_mem_cons, List.forall_mem_singleton] at hall
  exact absurd (hall.1.trans hall.2.symm) (by decide)

end Wandering

end Waiter

end Reconcile
