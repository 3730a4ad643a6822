import Reconcile.Proofs.Reference.Link
import Reconcile.Proofs.Template.Spelling

namespace Reconcile.Template

variable {segments : List Segment} {fields values : Fields} {s : List Char} {text : String}
  {t : Template}

theorem Spells.render (h : Spells segments values s)
    (hsaid : ∀ e ∈ values, Keyed.get? e.1 fields = some e.2) :
    renderSegments t fields segments = .ok s := by
  induction h with
  | nil => rfl
  | literal _ ih => exact map_eq_ok_iff.2 ⟨_, ih hsaid, rfl⟩
  | @field name value _ _ _ hvalue _ ih =>
      have hrest := ih fun e he => hsaid e (List.mem_cons_of_mem _ he)
      have hget : value? fields name = some value := by
        rw [value?, hsaid _ List.mem_cons_self]
        simpa [String.isEmpty_iff] using hvalue
      simp only [renderSegments, hget, hrest]
      rfl

theorem Spells.isSegment (h : Spells segments values s) (hfree : SlashFree values) :
    ∀ e ∈ values, IsSegment e.2 := by
  induction h with
  | nil => exact nofun
  | literal _ ih => exact ih hfree
  | field hvalue _ ih =>
      obtain ⟨hslash, hfree⟩ := slashFree_cons.1 hfree
      intro e he
      rcases List.mem_cons.1 he with rfl | he
      · exact ⟨hvalue, hslash⟩
      · exact ih hfree e he

theorem parse_eq_some (h : t.parse text = some fields) :
    ∃ values, Spells t.segments values text.toList ∧ SlashFree values ∧
      fields = Keyed.ofList values := by
  unfold parse at h
  dsimp only at h
  split at h
  · obtain ⟨values, hvalues, rfl⟩ := Option.map_eq_some_iff.1 h
    obtain ⟨hspells, hfree⟩ := parseSegments_sound hvalues
    exact ⟨values, hspells, hfree, rfl⟩
  · cases h

theorem render_of_parse (hnames : t.names.Nodup) (h : t.parse text = some fields) :
    t.render fields = .ok text := by
  obtain ⟨values, hspells, _, rfl⟩ := parse_eq_some h
  have hkeys : (values.map (·.1)).Nodup := by rwa [hspells.names]
  refine map_eq_ok_iff.2 ⟨_, hspells.render ?_, String.ofList_toList⟩
  intro e he
  rw [Keyed.get?_ofList, Keyed.get?_of_nodup _ (List.mem_reverse.2 he)]
  rw [List.map_reverse]
  exact List.pairwise_reverse.2 (hkeys.imp Ne.symm)

theorem covers_of_parse (h : t.parse text = some fields) : t.Covers fields := by
  obtain ⟨values, hspells, _, rfl⟩ := parse_eq_some h
  refine ⟨Keyed.ascending_ofList values, fun e he => ?_⟩
  rw [← hspells.names]
  exact List.mem_map_of_mem (Keyed.mem_ofList he)

theorem isSegment_of_parse (h : t.parse text = some fields) : ∀ e ∈ fields, IsSegment e.2 := by
  obtain ⟨values, hspells, hfree, rfl⟩ := parse_eq_some h
  exact fun e he => hspells.isSegment hfree e (Keyed.mem_ofList he)

theorem isSegment_get?_of_parse (hnames : t.names.Nodup) (h : t.parse text = some fields) :
    ∀ name ∈ t.names, ∃ value, Keyed.get? name fields = some value ∧ IsSegment value := by
  intro name hname
  obtain ⟨value, hvalue⟩ :=
    Option.isSome_iff_exists.1 (render_ok_iff.1 ⟨text, render_of_parse hnames h⟩ name hname)
  obtain ⟨hget, _⟩ := Option.filter_eq_some_iff.1 hvalue
  rw [String.ofList_toList] at hget
  exact ⟨value, hget, isSegment_of_parse h _ (Keyed.mem_of_get? hget)⟩

def Segment.value (fields : Fields) : Segment → List Char
  | .literal text => text
  | .field name => ((Keyed.get? (String.ofList name) fields).getD "").toList

theorem renderSegments_eq (h : renderSegments t fields segments = .ok s) :
    s = segments.flatMap (Segment.value fields) := by
  induction segments generalizing s with
  | nil =>
      cases h
      rfl
  | cons segment rest ih =>
      cases segment with
      | literal text =>
          obtain ⟨more, hmore, rfl⟩ := map_eq_ok_iff.1 h
          rw [ih hmore]
          rfl
      | field name =>
          unfold renderSegments at h
          split at h
          · next value hvalue =>
              obtain ⟨more, hmore, rfl⟩ := map_eq_ok_iff.1 h
              obtain ⟨hget, _⟩ := Option.filter_eq_some_iff.1 hvalue
              rw [ih hmore, List.flatMap_cons, Segment.value, hget]
              rfl
          · cases h

theorem render_eq (h : t.render fields = .ok text) :
    text.toList = t.segments.flatMap (Segment.value fields) := by
  obtain ⟨rendered, hrender, rfl⟩ := map_eq_ok_iff.1 h
  rw [String.toList_ofList, renderSegments_eq hrender]

def parts (t : Template) : List Segment :=
  (Text.splitOn '/' t.text.toList).flatMap (scan false [])

def Cut (t : Template) : Prop :=
  ∀ fields, t.segments.flatMap (Segment.value fields) =
    Text.join ['/'] (t.parts.map (Segment.value fields))

end Reconcile.Template
