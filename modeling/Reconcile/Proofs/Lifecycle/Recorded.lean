import Reconcile.Proofs.Lifecycle.Outcome
import Reconcile.Proofs.Lifecycle.Run
import Reconcile.Proofs.Network.Regular

namespace Reconcile.Lifecycle

variable {σ : Type} {k : Kind σ} {c : Context} {r : Record σ} {s : Session} {id : String}
  {identity : Fields} {p : Plan}

def foreign (k : Kind σ) (id : String) : Failure :=
  .invalid "id" (.foreignId id k.name k.id.text)

/-- An id of this kind with the identity that it was rendered from. -/
structure Rendered (k : Kind σ) (identity : Fields) (id : String) : Prop where
  covers : k.id.Covers identity
  render : k.id.render identity = .ok id

theorem rendered_of_call {call : Call σ} {q : Record σ × Session} (hk : k.Regular)
    (h : call.Renders k q identity id) : Rendered k identity id := by
  cases call with
  | create c => exact ⟨hk.declared h.1, h.2⟩
  | adopt c importId => exact ⟨hk.adopted h.1, h.2⟩
  | declare state => cases h
  | read c => cases h
  | delete c => cases h

theorem rendered_of_plan (hk : k.Regular) {state : σ} (h : plan k c state = .ok p) :
    Rendered k p.identity p.id := by
  obtain ⟨hidentity, _, hid, _⟩ := plan_eq_ok_iff.1 h
  exact ⟨hk.declared hidentity, hid⟩

theorem Rendered.parse (hk : k.Regular) (h : Rendered k identity id) :
    k.id.parse id = if Template.SlashFree identity then some identity else none :=
  h.covers.parse_of_render hk.valid hk.separated h.render

theorem Rendered.parse_eq_none_iff (hk : k.Regular) (h : Rendered k identity id) :
    k.id.parse id = none ↔ ¬ Template.SlashFree identity := by
  rw [h.parse hk]
  split
  · next hfree => simp [hfree]
  · next hheld => simp [hheld]

theorem Rendered.locates (hk : k.Regular) (h : Rendered k identity id) (identity' : Fields)
    (hparse : k.id.parse id = some identity') : ∃ path, Locates k id identity' path := by
  have hsame := h.parse hk
  rw [hparse] at hsame
  split at hsame
  · rw [Option.some.injEq] at hsame
    subst hsame
    have hfilled := Template.render_ok_iff.1 ⟨id, h.render⟩
    obtain ⟨path, hpath⟩ := (Template.render_ok_iff (t := k.selfPath)).2 fun name hname =>
      hfilled name (hk.located name hname)
    exact ⟨path, hparse, hpath⟩
  · cases hsame

theorem send_error_kind {request : Request} {e : Failure} {s' : Session} (hplain : s.Plain)
    (h : s.send request = (.error e, s')) : e.kind ≠ .validation := by
  rcases s.send_cases request with ⟨_, heq⟩ | ⟨reply, rest, hreplies, heq⟩
  · rw [heq] at h
    cases h
    exact nofun
  · rw [heq, Prod.mk.injEq] at h
    have hreply : reply.Plain := hplain reply (hreplies ▸ List.mem_cons_self)
    rcases hreply request e h.1 with hkind | hkind
    · rw [hkind]
      exact nofun
    · rw [hkind]
      exact nofun

theorem finish_error_kind {w : Waiter} {answer : Json} {e : Failure} {s' : Session}
    (hplain : s.Plain) (h : finish w answer s = (.returned (.error e), s')) :
    e.kind ≠ .validation := by
  have heffect := finish_effect w answer s
  rw [h] at heffect
  cases heffect with
  | unreadable hop =>
      obtain ⟨trouble, rfl⟩ := Operation.ofAnswer_error hop
      exact nofun
  | failed hop hwait =>
      obtain ⟨_, hwait⟩ := Waiter.wait?_eq_some_iff.1 hwait
      exact Waiter.wait_error_kind hplain (congrArg Prod.fst hwait)

section Refusals

variable {e : Failure}
  (hlocates : ∀ identity, k.id.parse id = some identity → ∃ path, Locates k id identity path)

include hlocates

theorem read_validation_iff (hid : r.id = some id) (hplain : s.Plain) (he : e.kind = .validation) :
    (read k c r s).ending = .returned (.error e) ↔ e = foreign k id ∧ k.id.parse id = none := by
  constructor
  · intro h
    have heffect := read_effect (k := k) (c := c) (s := s) hid
    generalize read k c r s = o at heffect h
    cases heffect with
    | foreign hparse =>
        cases h
        exact ⟨rfl, hparse⟩
    | pathless hparse hrender =>
        obtain ⟨path, _, hpath⟩ := hlocates _ hparse
        rw [hpath] at hrender
        cases hrender
    | found => cases h
    | gone => cases h
    | failed _ hsend =>
        cases h
        exact absurd he (send_error_kind hplain hsend)
  · rintro ⟨rfl, hparse⟩
    simp only [read, identityOf, hid, hparse, foreign]

theorem delete_validation_iff (hid : r.id = some id) (hplain : s.Plain)
    (he : e.kind = .validation) :
    (delete k c r s).ending = .returned (.error e) ↔ e = foreign k id ∧ k.id.parse id = none := by
  constructor
  · intro h
    have heffect := delete_effect (k := k) (c := c) (s := s) hid
    generalize delete k c r s = o at heffect h
    cases heffect with
    | foreign hparse =>
        cases h
        exact ⟨rfl, hparse⟩
    | pathless hparse hrender =>
        obtain ⟨path, _, hpath⟩ := hlocates _ hparse
        rw [hpath] at hrender
        cases hrender
    | gone => cases h
    | refused _ hsend =>
        cases h
        exact absurd he (send_error_kind (s := s.draw.2) hplain hsend)
    | overflowed => cases h
    | unfinished _ hsend hfinish =>
        cases h
        have hplain' := hplain.of_suffix (s.draw.2.replies_send hsend)
        exact absurd he (finish_error_kind hplain' hfinish)
    | finished => cases h
  · rintro ⟨rfl, hparse⟩
    simp only [delete, identityOf, hid, hparse, foreign]

theorem hydrate_validation_iff (hplain : s.Plain) (he : e.kind = .validation) :
    (hydrate k c id r s).ending = .returned (.error e) ↔
      e = foreign k id ∧ k.id.parse id = none := by
  have hread := read_validation_iff hlocates (c := c) (r := ⟨some id, r.state⟩)
    (s := s.note .info ("Finished creating " ++ k.name ++ " " ++ Text.quoted id)) rfl hplain he
  rw [← hread]
  unfold hydrate
  simp only
  split
  · next heq => simp [heq]
  · next heq => simp [heq]
  · next heq => simp [heq]
  · next heq => simp [heq]

end Refusals

theorem Accomplished.replies {s'' : Session} (h : Accomplished k c r s id s'') :
    s''.replies <:+ s.replies := by
  obtain ⟨p, answer, s', op, report, done, _, _, hpost, _, _, _, _, hwaited⟩ := h
  obtain ⟨o, hwait, rfl⟩ := Option.map_eq_some_iff.1 hwaited
  obtain ⟨_, rfl⟩ := Waiter.wait?_eq_some_iff.1 hwait
  exact ((creation k c p).continues_wait op s').replies.trans (s.draw.2.replies_send hpost)

theorem create_validation_iff {e : Failure} (hplan : plan k c r.state = .ok p)
    (hlocates : ∀ identity, k.id.parse p.id = some identity →
      ∃ path, Locates k p.id identity path)
    (hplain : s.Plain) (he : e.kind = .validation) :
    (create k c r s).ending = .returned (.error e) ↔
      (e = foreign k p.id ∧ k.id.parse p.id = none) ∧ ∃ s'', Accomplished k c r s p.id s'' := by
  constructor
  · intro h
    have heffect := create_effect k c r s
    generalize create k c r s = o at heffect h
    cases heffect with
    | unplanned hfailed =>
        rw [hplan] at hfailed
        cases hfailed
    | refused _ hpost =>
        cases h
        exact absurd he (send_error_kind (s := s.draw.2) hplain hpost)
    | overflowed => cases h
    | unfinished _ hpost hfinish =>
        cases h
        have hplain' := hplain.of_suffix (s.draw.2.replies_send hpost)
        exact absurd he (finish_error_kind hplain' hfinish)
    | finished hplan' hpost hfinish =>
        rw [hplan, Except.ok.injEq] at hplan'
        subst hplan'
        have haccomplished := accomplished_of_finish hplan hpost hfinish
        have hplain' := hplain.of_suffix haccomplished.replies
        exact ⟨(hydrate_validation_iff hlocates hplain' he).1 h, _, haccomplished⟩
  · rintro ⟨hforeign, s'', haccomplished⟩
    have hplain' := hplain.of_suffix haccomplished.replies
    rw [haccomplished.create]
    exact (hydrate_validation_iff hlocates hplain' he).2 hforeign

/-- Whatever was called before, an id in the record was put there by one of the calls, rendered from
an identity. It reads back as this identity if no value holds a slash, and not at all otherwise;
only then a read or a delete of it is refused, and only then a create is refused whose insert was
sent and reported as done. -/
theorem recorded_id_law (f : Family) (calls : List (Call f.State)) (r₀ r : Record f.State)
    (s₀ s : Session) (hnew : r₀.id = none) (hplain : s₀.Plain)
    (hrun : Call.run f.kind calls (r₀, s₀) = (r, s)) :
    (∀ id, r.id = some id → ∃ before call after identity, calls = before ++ call :: after ∧
      call.Puts f.kind (Call.run f.kind before (r₀, s₀)) identity id ∧
      f.kind.id.parse id = (if Template.SlashFree identity then some identity else none) ∧
      ∀ (c : Context) (e : Failure), e.kind = .validation →
        ((read f.kind c r s).ending = .returned (.error e) ↔
          e = foreign f.kind id ∧ ¬ Template.SlashFree identity) ∧
        ((delete f.kind c r s).ending = .returned (.error e) ↔
          e = foreign f.kind id ∧ ¬ Template.SlashFree identity)) ∧
    (∀ (c : Context) (p : Plan), plan f.kind c r.state = .ok p →
      (create f.kind c r s).ending ≠ .overflowed →
      ∀ e : Failure, e.kind = .validation →
        ((create f.kind c r s).ending = .returned (.error e) ↔
          (e = foreign f.kind p.id ∧ ¬ Template.SlashFree p.identity) ∧
            ∃ s'', Accomplished f.kind c r s p.id s'')) := by
  have hk := f.kind_regular
  have hplain' : s.Plain := by
    apply hplain.of_suffix
    have hreplies := Call.replies_run f.kind calls (r₀, s₀)
    rwa [hrun] at hreplies
  constructor
  · intro id hid
    have hlast : (Call.run f.kind calls (r₀, s₀)).1.id = some id := by
      rw [hrun]
      exact hid
    rcases Call.run_id calls (r₀, s₀) hlast with hold |
      ⟨before, call, after, identity, hcalls, hputs⟩
    · simp only [hnew] at hold
      cases hold
    · have hrendered := rendered_of_call hk hputs.1
      refine ⟨before, call, after, identity, hcalls, hputs, hrendered.parse hk, ?_⟩
      intro c e he
      rw [← hrendered.parse_eq_none_iff hk]
      exact ⟨read_validation_iff (hrendered.locates hk) hid hplain' he,
        delete_validation_iff (hrendered.locates hk) hid hplain' he⟩
  · intro c p hplan _ e he
    have hrendered := rendered_of_plan hk hplan
    rw [← hrendered.parse_eq_none_iff hk]
    exact create_validation_iff hplan (hrendered.locates hk) hplain' he

namespace Imported

def calls : List (Call Route) := [.adopt (.ofDefaults ⟨none, none, none⟩) "p1/r1"]

def record : Record Route := ⟨none, Route.blank⟩

def session : Session := .start [] fun n => ⟨n⟩

theorem imported_id_reads_back :
    (Call.run Route.kind calls (record, session)).1.id = some "p1/r1" ∧
    ∀ c : Context, (read Route.kind c (Call.run Route.kind calls (record, session)).1
      (Call.run Route.kind calls (record, session)).2).ending ≠
        .returned (.error (foreign Route.kind "p1/r1")) := by
  have hid : (Call.run Route.kind calls (record, session)).1.id = some "p1/r1" := by
    decide +kernel
  have hsome : (Route.kind.id.parse "p1/r1").isSome = true := by decide +kernel
  generalize hrun : Call.run Route.kind calls (record, session) = q at hid ⊢
  obtain ⟨r, s⟩ := q
  have hlaw := recorded_id_law .route calls record r session s rfl nofun hrun
  obtain ⟨_, _, _, identity, _, _, hparse, hrefused⟩ := hlaw.1 "p1/r1" hid
  have hfree : Template.SlashFree identity := by
    apply Classical.byContradiction
    intro hheld
    rw [if_neg hheld] at hparse
    rw [show Route.kind.id.parse "p1/r1" = none from hparse] at hsome
    cases hsome
  refine ⟨hid, ?_⟩
  intro c h
  exact ((hrefused c (foreign Route.kind "p1/r1") rfl).1.1 h).2 hfree

end Imported

namespace Slashed

def context : Context := .ofDefaults ⟨none, none, none⟩

def route : Route :=
  { Route.blank with
    name := "a/b", destRange := "0.0.0.0/0", network := "default", project := some "p1"
    nextHopIp := some "10.0.0.1" }

def accepted : Json := .obj [("name", .str "op-1"), ("status", .str "DONE")]

def handle : Operation := { Operation.blank with name := "op-1", status := .done }

def session : Session := .start [.ok 0 accepted] fun n => ⟨n⟩

def planned : Plan :=
  ⟨[("name", "a/b"), ("project", "p1")],
    ⟨[("destRange", .str "0.0.0.0/0"), ("name", .str "a/b"),
      ("network", .str "projects/p1/global/networks/default"), ("nextHopIp", .str "10.0.0.1")]⟩,
    "p1/a/b", "projects/p1/global/routes"⟩

/-- The route exists, its id is recorded, and nothing can be done with it. -/
theorem created_and_lost :
    (Call.run Route.kind [.create context] (⟨none, route⟩, session)).1.id = some "p1/a/b" ∧
    Route.kind.identity route context = .ok [("name", "a/b"), ("project", "p1")] ∧
    Route.kind.id.render [("name", "a/b"), ("project", "p1")] = .ok "p1/a/b" ∧
    Route.kind.id.parse "p1/a/b" = none ∧
    (create Route.kind context ⟨none, route⟩ session).ending =
      .returned (.error (foreign Route.kind "p1/a/b")) ∧
    (foreign Route.kind "p1/a/b").kind = .validation := by
  have hparse : Route.kind.id.parse "p1/a/b" = none := by decide +kernel
  have hplan : plan Route.kind context route = .ok planned := by rfl
  have hpost : posted context planned session =
      (.ok accepted, (posted context planned session).2) := by rfl
  have hwait : (creation Route.kind context planned).wait? handle
      (posted context planned session).2 = some (.ok handle,
        ((creation Route.kind context planned).wait handle
          (posted context planned session).2).2) := by rfl
  have hcreate := create_of_done (r := ⟨none, route⟩) hplan hpost (by rfl) hwait
  refine ⟨by decide +kernel, by rfl, by rfl, hparse, ?_, rfl⟩
  rw [hcreate]
  simp only [hydrate, read, identityOf, hparse, planned, foreign]

end Slashed

end Reconcile.Lifecycle
