import Reconcile.Proofs.Lifecycle.Removal
import Reconcile.Proofs.Lifecycle.Run
import Reconcile.Proofs.Network.Paths

namespace Reconcile

theorem Uuid.quiet_digitChar : ∀ n < 16, Url.Quiet (Nat.digitChar n) := by
  decide

theorem Uuid.quiet_hexDigits {bits shift count : Nat} {c : Char}
    (h : c ∈ hexDigits bits shift count) : Url.Quiet c := by
  obtain ⟨i, _, rfl⟩ := List.mem_map.1 h
  exact quiet_digitChar _ (Nat.mod_lt _ (by decide))

theorem Uuid.quiet_text (uuid : Uuid) : ∀ c ∈ uuid.text.toList, Url.Quiet c := by
  intro c hc
  rw [text, String.toList_ofList] at hc
  have hfixed : Url.Quiet '-' ∧ Url.Quiet '4' := by decide
  rcases Text.mem_join hc with hsep | ⟨piece, hpiece, hc⟩
  · rw [List.mem_singleton.1 hsep]
    exact hfixed.1
  · simp only [List.mem_cons, List.not_mem_nil, or_false] at hpiece
    rcases hpiece with rfl | rfl | rfl | rfl | rfl
    · exact quiet_hexDigits hc
    · exact quiet_hexDigits hc
    · rcases List.mem_cons.1 hc with rfl | hc
      · exact hfixed.2
      · exact quiet_hexDigits hc
    · rcases List.mem_cons.1 hc with rfl | hc
      · exact quiet_digitChar _ (by omega)
      · exact quiet_hexDigits hc
    · exact quiet_hexDigits hc

theorem Context.withEndpoint_endsInSlash (c : Context) (endpoint : String) :
    Url.EndsInSlash (c.withEndpoint endpoint).endpoint.toList := by
  unfold Url.EndsInSlash withEndpoint
  dsimp only
  rw [String.toList_append]
  split
  · next h => simpa using h
  · simp

namespace Lifecycle

variable {σ : Type} {k : Kind σ} {c : Context} {r : Record σ} {s : Session} {id path : String}
  {identity : Fields} {root v : Url}

theorem delete_sent (hid : r.id = some id) (hl : Locates k id identity path) :
    s.sent ++ [⟨⟨.delete, withRequestId (c.url path) s.draw.1, none⟩, s.now⟩] <+:
      (delete k c r s).session.sent := by
  have hsent := sent_removed c path s
  rw [delete_of_locates hid hl, ← hsent]
  cases hremoved : removed c path s with
  | mk answer s' =>
      cases answer with
      | error e =>
          dsimp only
          split <;> exact List.prefix_refl _
      | ok answer =>
          dsimp only
          split <;>
            · next hfinish => exact (continues_finish hfinish).sent

theorem url_of_locates (hk : k.Placed) (hl : Locates k id identity path) :
    c.url path = c.endpoint ++ path ∧ path.toList ≠ [] := by
  have hpieces := hk.splitOn_path hl.1 hl.2
  obtain ⟨part, parts, hparts⟩ := List.exists_cons_of_ne_nil hk.nonempty
  rw [hparts, List.map_cons] at hpieces
  have hfirst := hk.value_isSegment hl.1 (part.value identity) (by simp [hparts])
  -- The path begins with its first segment, so no slash is dropped from it.
  cases hpath : path.toList with
  | nil =>
      rw [hpath] at hpieces
      exact absurd (List.cons.inj hpieces).1.symm hfirst.1
  | cons a rest =>
      have ha : a ≠ '/' := by
        rintro rfl
        rw [hpath, Text.splitOn, if_pos rfl] at hpieces
        exact hfirst.1 (List.cons.inj hpieces).1.symm
      refine ⟨?_, List.cons_ne_nil a rest⟩
      rw [Context.url, hpath, List.dropWhile_cons_of_neg (by simpa using ha), ← hpath,
        String.ofList_toList]

def key (uuid : Uuid) : String := "requestId=" ++ uuid.text

theorem quiet_key (uuid : Uuid) : ∀ c ∈ (key uuid).toList, Url.Quiet c := by
  have hname : "requestId=".toList.all (Url.Quiet ·) = true := by decide
  intro c hc
  rw [key, String.toList_append] at hc
  rcases List.mem_append.1 hc with hc | hc
  · exact of_decide_eq_true (List.all_eq_true.1 hname c hc)
  · exact uuid.quiet_text c hc

theorem key_ne_nil (uuid : Uuid) : (key uuid).toList ≠ [] := by
  rw [key, String.toList_append]
  exact List.append_ne_nil_of_left_ne_nil (by decide) _

theorem withRequestId_eq {endpoint : String} (uuid : Uuid) :
    withRequestId (endpoint ++ path) uuid =
      endpoint ++ String.ofList (path.toList ++ '?' :: (key uuid).toList) := by
  have hmark : "?requestId=".toList = '?' :: "requestId=".toList := rfl
  apply String.toList_injective
  simp only [withRequestId, key, String.toList_append, String.toList_ofList, List.append_assoc,
    hmark, List.cons_append]

theorem liesOn_read_iff (hk : k.Placed) (hroot : Url.Root c.endpoint root)
    (hl : Locates k id identity path) (hparse : Url.parse (c.endpoint ++ path) = .ok v) :
    v.LiesOn root k.selfPath identity ↔
      (∀ e ∈ identity, Confined e.2) ∧ Url.EndsVisibly path.toList := by
  have hpieces := hk.splitOn_path hl.1 hl.2
  rw [← String.ofList_toList (s := path)] at hparse
  rw [← hk.confined_iff hl.1 hl.2]
  constructor
  · intro h
    obtain ⟨segs, hpath, hdecoded⟩ := h.decoded hk
    rw [← hpieces] at hdecoded
    obtain ⟨hfree, hplain, hends⟩ := hroot.plain_of_parse hparse hpath hdecoded
    exact ⟨⟨hfree, hplain⟩, hends⟩
  · rintro ⟨⟨hfree, hplain⟩, hends⟩
    rw [hroot.parse_plain hfree hplain hends, Except.ok.injEq] at hparse
    rw [hpieces] at hplain hparse
    subst hparse
    exact .of_plain hk hl.1 hroot.path_eq hplain rfl

theorem liesOn_delete_iff (hk : k.Placed) (hroot : Url.Root c.endpoint root)
    (hl : Locates k id identity path) {uuid : Uuid}
    (hparse : Url.parse (withRequestId (c.endpoint ++ path) uuid) = .ok v) :
    v.LiesOn root k.selfPath identity ∧ v.query = some (key uuid).toList ↔
      ∀ e ∈ identity, Confined e.2 := by
  have hpieces := hk.splitOn_path hl.1 hl.2
  have hquiet := quiet_key uuid
  have hkey := key_ne_nil uuid
  rw [withRequestId_eq] at hparse
  rw [← hk.confined_iff hl.1 hl.2]
  constructor
  · rintro ⟨h, _⟩
    obtain ⟨segs, hpath, hdecoded⟩ := h.decoded hk
    rw [← hpieces] at hdecoded
    exact hroot.plain_of_parse_query hquiet hkey hparse hpath hdecoded
  · rintro ⟨hfree, hplain⟩
    rw [hroot.parse_plain_query hfree hplain hquiet hkey, Except.ok.injEq] at hparse
    rw [hpieces] at hplain hparse
    subst hparse
    exact ⟨.of_plain hk hl.1 hroot.path_eq hplain rfl, rfl⟩

/-- The requests of a read and a delete reach the object that the id names exactly if the values of
the id keep to their segments and the URL does not end invisibly. Then no other id reaches it. -/
theorem id_addresses_iff (f : Family) (c : Context) (endpoint : String) (r : Record f.State)
    (s : Session) (hparsed : Url.parse (c.withEndpoint endpoint).endpoint = .ok root)
    (hweb : (Url.defaultPort root.scheme).isSome) (hquery : root.query = none)
    (hfragment : root.fragment = none) (hid : r.id = some id)
    (hidentity : f.kind.id.parse id = some identity) :
    ∃ url v w,
      (read f.kind (c.withEndpoint endpoint) r s).session.sent =
        s.sent ++ [⟨⟨.get, url, none⟩, s.now⟩] ∧
      s.sent ++ [⟨⟨.delete, withRequestId url s.draw.1, none⟩, s.now⟩] <+:
        (delete f.kind (c.withEndpoint endpoint) r s).session.sent ∧
      Url.parse url = .ok v ∧ Url.parse (withRequestId url s.draw.1) = .ok w ∧
      (v.LiesOn root f.kind.selfPath identity ↔
        (∀ e ∈ identity, Confined e.2) ∧ Url.EndsVisibly url.toList) ∧
      (w.LiesOn root f.kind.selfPath identity ∧ w.query = some (key s.draw.1).toList ↔
        ∀ e ∈ identity, Confined e.2) ∧
      ∀ id' identity' x y, f.kind.id.parse id' = some identity' →
        Url.LiesOn x root f.kind.selfPath identity →
        Url.LiesOn y root f.kind.selfPath identity' → x.path = y.path → id = id' := by
  have hk := f.kind_placed
  have hroot : Url.Root (c.withEndpoint endpoint).endpoint root :=
    ⟨c.withEndpoint_endsInSlash endpoint, hparsed, hweb, hquery, hfragment⟩
  have hfilled := Template.render_ok_iff.1 ⟨id, hk.render hidentity⟩
  obtain ⟨path, hpath⟩ := (Template.render_ok_iff (t := f.kind.selfPath)).2 fun name hname =>
    hfilled name (f.kind_regular.located name hname)
  have hl : Locates f.kind id identity path := ⟨hidentity, hpath⟩
  obtain ⟨hurl, hne⟩ := url_of_locates (c := c.withEndpoint endpoint) hk hl
  have hparse := hroot.parse_append path
  have hremoval := hroot.parse_append (String.ofList (path.toList ++ '?' :: (key s.draw.1).toList))
  rw [← withRequestId_eq] at hremoval
  have hends : Url.EndsVisibly ((c.withEndpoint endpoint).endpoint ++ path).toList ↔
      Url.EndsVisibly path.toList := by
    rw [Url.EndsVisibly, String.toList_append, List.getLast?_append_of_ne_nil _ hne]
    rfl
  refine ⟨(c.withEndpoint endpoint).url path, _, _, read_sent hid hl, delete_sent hid hl,
    by rw [hurl, hparse], by rw [hurl, hremoval], ?_, liesOn_delete_iff hk hroot hl hremoval, ?_⟩
  · rw [hurl, hends]
    exact liesOn_read_iff hk hroot hl hparse
  · intro id' identity' x y hid' hx hy hsame
    exact Url.LiesOn.id_unique hk hidentity hid' hx hy hsame

namespace Marked

def context : Context :=
  (Context.ofDefaults ⟨none, none, none⟩).withEndpoint Context.standardEndpoint

def api : Url where
  scheme := "https".toList
  host := some (.domain "compute.googleapis.com".toList)
  port := none
  path := ["compute".toList, "v1".toList, []]
  opaquePath := []
  query := none
  fragment := none

def removing : Session :=
  .start [.ok 0 (.obj [("name", .str "op-1"), ("status", .str "DONE")])] fun n => ⟨n⟩

def record (id : String) : Record Route := ⟨some id, Route.blank⟩

def fields (name : String) : Fields := [("name", name), ("project", "p1")]

def address (name : String) : String :=
  "https://compute.googleapis.com/compute/v1/projects/p1/global/routes/" ++ name

def other : Url :=
  { api with
    path := ["compute".toList, "v1".toList, "projects".toList, "p1".toList, "global".toList,
      "routes".toList, "a".toList]
    fragment := some "b?requestId=00000000-0000-4000-8000-000000000000".toList }

theorem plain_id_addressed :
    Url.parse context.endpoint = .ok api ∧ (record "p1/a").id = some "p1/a" ∧
      Route.kind.id.parse "p1/a" = some (fields "a") ∧
      ∃ v w : Url, Url.parse (address "a") = .ok v ∧
        Url.parse (withRequestId (address "a") removing.draw.1) = .ok w ∧
        v.LiesOn api Route.kind.selfPath (fields "a") ∧
        w.LiesOn api Route.kind.selfPath (fields "a") ∧
        w.query = some (key removing.draw.1).toList := by
  have hparsed : (Url.parse context.endpoint).toOption = some api := by decide +kernel
  have hweb : (Url.defaultPort api.scheme).isSome := by decide +kernel
  have hl : Locates Route.kind "p1/a" (fields "a") "projects/p1/global/routes/a" :=
    ⟨by decide +kernel, by rfl⟩
  have haddress : context.url "projects/p1/global/routes/a" = address "a" := by decide +kernel
  have hconfined : ∀ e ∈ fields "a", Confined e.2 := by decide +kernel
  have hends : Url.EndsVisibly (address "a").toList := by decide +kernel
  obtain ⟨url, v, w, hread, _, hv, hw, hreads, hdeletes, _⟩ :=
    id_addresses_iff .route (Context.ofDefaults ⟨none, none, none⟩) Context.standardEndpoint
      (record "p1/a") removing (toOption_eq_some_iff.1 hparsed) hweb rfl rfl rfl hl.1
  have hurl : url = address "a" := by
    have hsent := hread.symm.trans (read_sent rfl hl)
    rw [lookUp, show (Context.withEndpoint _ _).url _ = _ from haddress] at hsent
    simpa using hsent
  subst hurl
  obtain ⟨hremoved, hkey⟩ := hdeletes.2 hconfined
  exact ⟨toOption_eq_some_iff.1 hparsed, rfl, hl.1, v, w, hv, hw, hreads.2 ⟨hconfined, hends⟩,
    hremoved, hkey⟩

/-- The removal of one object reaches another one, and without a key. -/
theorem other_object_removed :
    Route.kind.id.parse "p1/a#b" = some (fields "a#b") ∧
      [⟨⟨.delete, withRequestId (address "a#b") removing.draw.1, none⟩, 0⟩] <+:
        (delete Route.kind context (record "p1/a#b") removing).session.sent ∧
      ∃ w : Url, Url.parse (withRequestId (address "a#b") removing.draw.1) = .ok w ∧
        ¬ w.LiesOn api Route.kind.selfPath (fields "a#b") ∧
        w.LiesOn api Route.kind.selfPath (fields "a") ∧ w.query = none := by
  have hid : Route.kind.id.parse "p1/a" = some (fields "a") := by decide +kernel
  have hl : Locates Route.kind "p1/a#b" (fields "a#b") "projects/p1/global/routes/a#b" :=
    ⟨by decide +kernel, by rfl⟩
  have haddress : context.url "projects/p1/global/routes/a#b" = address "a#b" := by decide +kernel
  have hsent := delete_sent (c := context) (r := record "p1/a#b") (s := removing) rfl hl
  rw [haddress] at hsent
  have hparsed : (Url.parse (withRequestId (address "a#b") removing.draw.1)).toOption =
      some other := by
    decide +kernel
  have hlies : other.LiesOn api Route.kind.selfPath (fields "a") := by
    refine ⟨["compute".toList, "v1".toList], _, rfl, rfl, ?_⟩
    rw [Route.parts_selfPath]
    have hproject : Template.Segment.Says (fields "a") (.field "project".toList) "p1".toList :=
      .field rfl rfl
    have hname : Template.Segment.Says (fields "a") (.field "name".toList) "a".toList :=
      .field rfl rfl
    exact .cons .literal (.cons hproject (.cons .literal (.cons .literal (.cons hname .nil))))
  refine ⟨hl.1, hsent, other, toOption_eq_some_iff.1 hparsed, ?_, hlies, rfl⟩
  intro hboth
  have hsame := Url.LiesOn.id_unique Route.kind_placed hl.1 hid hboth hlies rfl
  exact absurd hsame (by decide)

end Marked

end Lifecycle

end Reconcile
