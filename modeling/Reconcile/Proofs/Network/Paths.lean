import Mathlib.Data.List.Forall2
import Reconcile.Proofs.Network.Regular
import Reconcile.Proofs.Template.Parts
import Reconcile.Proofs.Url.Confined

namespace Reconcile

/-- Text that neither ends nor splits the segment that it is put in, and is read as it was
written. -/
structure Confined (value : String) : Prop where
  unmarked : ∀ c ∈ value.toList, c ∉ Url.marks
  plain : Url.Plain value.toList

instance (value : String) : Decidable (Confined value) :=
  decidable_of_iff (value.toList.all (!Url.marks.contains ·) = true ∧ Url.Plain value.toList)
    ⟨fun h => ⟨by simpa using h.1, h.2⟩, fun h => ⟨by simpa using h.1, h.2⟩⟩

inductive Template.Segment.Says (identity : Fields) : Segment → List Char → Prop
  | literal {text : List Char} : Says identity (.literal text) text
  | field {name seg : List Char} {value : String} :
      Keyed.get? (String.ofList name) identity = some value →
      Url.percentDecode seg = Text.Utf8.encode value.toList → Says identity (.field name) seg

/-- The path of the URL is that of the root, and then the template with this identity. -/
def Url.LiesOn (u root : Url) (t : Template) (identity : Fields) : Prop :=
  ∃ base segs, root.path = base ++ [[]] ∧ u.path = base ++ segs ∧
    List.Forall₂ (Template.Segment.Says identity) t.parts segs

structure Url.Verbatim (text : List Char) : Prop where
  nonempty : text ≠ []
  whole : '/' ∉ text
  confined : Confined (String.ofList text)
  encoded : Url.percentEncode Url.inPathSet text = text

instance (text : List Char) : Decidable (Url.Verbatim text) :=
  decidable_of_iff (text ≠ [] ∧ '/' ∉ text ∧ Confined (String.ofList text) ∧
      Url.percentEncode Url.inPathSet text = text)
    ⟨fun h => ⟨h.1, h.2.1, h.2.2.1, h.2.2.2⟩, fun h => ⟨h.1, h.2, h.3, h.4⟩⟩

def Template.Segment.Fits (names : List String) : Segment → Prop
  | .literal text => Url.Verbatim text
  | .field name => String.ofList name ∈ names

instance (names : List String) : (part : Template.Segment) → Decidable (part.Fits names)
  | .literal text => inferInstanceAs (Decidable (Url.Verbatim text))
  | .field name => inferInstanceAs (Decidable (String.ofList name ∈ names))

structure Kind.Placed {σ : Type} (k : Kind σ) : Prop where
  distinct : k.id.names.Nodup
  cut : k.selfPath.Cut
  nonempty : k.selfPath.parts ≠ []
  fits : ∀ part ∈ k.selfPath.parts, part.Fits k.id.names
  complete : ∀ name ∈ k.id.names, .field name.toList ∈ k.selfPath.parts

namespace Kind.Placed

variable {σ : Type} {k : Kind σ} {id path : String} {identity : Fields} {name : List Char}

theorem render (hk : k.Placed) (hid : k.id.parse id = some identity) :
    k.id.render identity = .ok id :=
  Template.render_of_parse hk.distinct hid

theorem get?_of_mem (hk : k.Placed) (hid : k.id.parse id = some identity)
    (hname : .field name ∈ k.selfPath.parts) :
    ∃ value, Keyed.get? (String.ofList name) identity = some value ∧ IsSegment value :=
  Template.isSegment_get?_of_parse hk.distinct hid _ (hk.fits _ hname)

theorem mem_parts (hk : k.Placed) (hid : k.id.parse id = some identity) {e : String × String}
    (he : e ∈ identity) :
    .field e.1.toList ∈ k.selfPath.parts ∧
      Template.Segment.value identity (.field e.1.toList) = e.2.toList := by
  have hcovers := Template.covers_of_parse hid
  refine ⟨hk.complete e.1 (hcovers.named e he), ?_⟩
  rw [Template.Segment.value, String.ofList_toList, hcovers.ascending.get?_of_mem he]
  rfl

theorem value_isSegment (hk : k.Placed) (hid : k.id.parse id = some identity) :
    ∀ piece ∈ k.selfPath.parts.map (Template.Segment.value identity), piece ≠ [] ∧ '/' ∉ piece := by
  intro piece hpiece
  obtain ⟨part, hpart, rfl⟩ := List.mem_map.1 hpiece
  cases part with
  | literal text =>
      have hfits : Url.Verbatim text := hk.fits _ hpart
      exact ⟨hfits.nonempty, hfits.whole⟩
  | field name =>
      obtain ⟨value, hget, hsegment⟩ := hk.get?_of_mem hid hpart
      rw [Template.Segment.value, hget]
      exact hsegment

theorem splitOn_path (hk : k.Placed) (hid : k.id.parse id = some identity)
    (hpath : k.selfPath.render identity = .ok path) :
    Text.splitOn '/' path.toList = k.selfPath.parts.map (Template.Segment.value identity) := by
  rw [Template.render_eq hpath, hk.cut]
  apply Text.splitOn_join
  · simpa using hk.nonempty
  · exact fun piece hpiece => (hk.value_isSegment hid piece hpiece).2

theorem confined_iff (hk : k.Placed) (hid : k.id.parse id = some identity)
    (hpath : k.selfPath.render identity = .ok path) :
    ((∀ c ∈ path.toList, c ∉ Url.marks) ∧
        ∀ piece ∈ Text.splitOn '/' path.toList, Url.Plain piece) ↔
      ∀ e ∈ identity, Confined e.2 := by
  have hpieces := hk.splitOn_path hid hpath
  have hchars : (∀ c ∈ path.toList, c ∉ Url.marks) ↔
      ∀ piece ∈ Text.splitOn '/' path.toList, ∀ c ∈ piece, c ∉ Url.marks :=
    Text.forall_mem_iff_splitOn (by decide)
  rw [hchars, hpieces]
  constructor
  · rintro ⟨hunmarked, hplain⟩ e he
    obtain ⟨hpart, hvalue⟩ := hk.mem_parts hid he
    have hpiece := List.mem_map_of_mem (f := Template.Segment.value identity) hpart
    rw [hvalue] at hpiece
    exact ⟨hunmarked _ hpiece, hplain _ hpiece⟩
  · intro hconfined
    have hall : ∀ piece ∈ k.selfPath.parts.map (Template.Segment.value identity),
        Confined (String.ofList piece) := by
      intro piece hpiece
      obtain ⟨part, hpart, rfl⟩ := List.mem_map.1 hpiece
      cases part with
      | literal text =>
          have hfits : Url.Verbatim text := hk.fits _ hpart
          exact hfits.confined
      | field name =>
          obtain ⟨value, hget, _⟩ := hk.get?_of_mem hid hpart
          have hvalue := hconfined _ (Keyed.mem_of_get? hget)
          rw [Template.Segment.value, hget]
          simpa using hvalue
    constructor
    · intro piece hpiece
      simpa using (hall piece hpiece).unmarked
    · intro piece hpiece
      simpa using (hall piece hpiece).plain

end Kind.Placed

namespace Url.LiesOn

variable {σ : Type} {k : Kind σ} {id id' path : String} {identity identity' : Fields}
  {root v w : Url}

theorem of_plain (hk : k.Placed) (hid : k.id.parse id = some identity)
    (hslash : root.path = root.path.dropLast ++ [[]])
    (hplain : ∀ piece ∈ k.selfPath.parts.map (Template.Segment.value identity), Plain piece)
    (hpath : v.path = root.path.dropLast ++
      (k.selfPath.parts.map (Template.Segment.value identity)).map (percentEncode inPathSet)) :
    v.LiesOn root k.selfPath identity := by
  refine ⟨_, _, hslash, hpath, ?_⟩
  rw [List.map_map, List.forall₂_map_right_iff, List.forall₂_same]
  intro part hpart
  cases part with
  | literal text =>
      have hfits : Verbatim text := hk.fits _ hpart
      rw [Function.comp_apply, Template.Segment.value, hfits.encoded]
      exact .literal
  | field name =>
      obtain ⟨value, hget, _⟩ := hk.get?_of_mem hid hpart
      have hvalue := hplain _ (List.mem_map_of_mem hpart)
      rw [Template.Segment.value, hget] at hvalue
      refine .field hget ?_
      rw [Function.comp_apply, Template.Segment.value, hget,
        percentDecode_percentEncode transparent_inPathSet]
      exact percentDecode_of_no_escape hvalue.unescaped

theorem decoded (hk : k.Placed) (h : v.LiesOn root k.selfPath identity) :
    ∃ segs, v.path = root.path.dropLast ++ segs ∧
      segs.map percentDecode =
        (k.selfPath.parts.map (Template.Segment.value identity)).map Text.Utf8.encode := by
  obtain ⟨base, segs, hroot, hpath, hsays⟩ := h
  refine ⟨segs, by rw [hroot, List.dropLast_concat, hpath], ?_⟩
  have hfits := hk.fits
  generalize k.selfPath.parts = parts at hsays hfits
  clear hpath
  induction hsays with
  | nil => rfl
  | @cons part seg parts segs hpart _ ih =>
      have hrest := ih fun part hpart => hfits part (List.mem_cons_of_mem _ hpart)
      simp only [List.map_cons, hrest]
      congr 1
      cases hpart with
      | literal =>
          have hverbatim : Verbatim seg := hfits _ List.mem_cons_self
          have hplain := hverbatim.confined.plain
          rw [String.toList_ofList] at hplain
          exact percentDecode_of_no_escape hplain.unescaped
      | field hget hdecoded =>
          rw [Template.Segment.value, hget]
          exact hdecoded

theorem get?_eq {t : Template} {name : List Char} (h : v.LiesOn root t identity)
    (h' : w.LiesOn root t identity') (hsame : v.path = w.path) (hname : .field name ∈ t.parts) :
    Keyed.get? (String.ofList name) identity = Keyed.get? (String.ofList name) identity' := by
  obtain ⟨base, segs, hroot, hpath, hsays⟩ := h
  obtain ⟨base', segs', hroot', hpath', hsays'⟩ := h'
  have hbase : base = base' := List.append_cancel_right (hroot.symm.trans hroot')
  have hsegs : segs = segs' := by
    rw [hpath, hpath', hbase] at hsame
    exact List.append_cancel_left hsame
  subst hsegs
  generalize t.parts = parts at hsays hsays' hname
  clear hroot hroot' hpath hpath' hsame
  induction hsays with
  | nil => cases hname
  | cons hpart _ ih =>
      cases hsays' with
      | cons hpart' hrest' =>
          rcases List.mem_cons.1 hname with rfl | hname
          · cases hpart with | field hget hdecoded =>
            cases hpart' with | field hget' hdecoded' =>
            have hvalue := Text.Utf8.encode_injective (hdecoded.symm.trans hdecoded')
            rw [hget, hget', String.toList_injective hvalue]
          · exact ih hrest' hname

theorem id_unique (hk : k.Placed) (hid : k.id.parse id = some identity)
    (hid' : k.id.parse id' = some identity') (h : v.LiesOn root k.selfPath identity)
    (h' : w.LiesOn root k.selfPath identity') (hsame : v.path = w.path) : id = id' := by
  have hidentity : identity = identity' := by
    apply (Template.covers_of_parse hid).ext (Template.covers_of_parse hid')
    intro name hname
    have hget := get?_eq h h' hsame (hk.complete name hname)
    rwa [String.ofList_toList] at hget
  have hrender := hk.render hid
  rw [hidentity, hk.render hid', Except.ok.injEq] at hrender
  exact hrender.symm

end Url.LiesOn

theorem Address.parts_selfPath : Address.kind.selfPath.parts =
    [.literal "projects".toList, .field "project".toList, .literal "regions".toList,
      .field "region".toList, .literal "addresses".toList, .field "name".toList] := by
  decide +kernel

theorem Address.segments_selfPath : Address.kind.selfPath.segments =
    [.literal "projects/".toList, .field "project".toList, .literal "/regions/".toList,
      .field "region".toList, .literal "/addresses/".toList, .field "name".toList] := by
  decide +kernel

theorem Address.kind_placed : Address.kind.Placed where
  distinct := by decide +kernel
  cut := by
    intro fields
    rw [segments_selfPath, parts_selfPath]
    simp [Template.Segment.value, Text.join]
  nonempty := by decide +kernel
  fits := by decide +kernel
  complete := by decide +kernel

theorem Route.parts_selfPath : Route.kind.selfPath.parts =
    [.literal "projects".toList, .field "project".toList, .literal "global".toList,
      .literal "routes".toList, .field "name".toList] := by
  decide +kernel

theorem Route.segments_selfPath : Route.kind.selfPath.segments =
    [.literal "projects/".toList, .field "project".toList, .literal "/global/routes/".toList,
      .field "name".toList] := by
  decide +kernel

theorem Route.kind_placed : Route.kind.Placed where
  distinct := by decide +kernel
  cut := by
    intro fields
    rw [segments_selfPath, parts_selfPath]
    simp [Template.Segment.value, Text.join]
  nonempty := by decide +kernel
  fits := by decide +kernel
  complete := by decide +kernel

theorem Family.kind_placed : (f : Family) → f.kind.Placed
  | .address => Address.kind_placed
  | .route => Route.kind_placed

end Reconcile
