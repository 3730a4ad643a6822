import Reconcile.Proofs.Template.Parts

namespace Reconcile.Template

variable {fields more values : Fields} {name text value : String} {t : Template}

theorem length_eraseDups_le (names : List String) : names.eraseDups.length ≤ names.length := by
  induction hlength : names.length using Nat.strong_induction_on generalizing names with
  | h n ih =>
      cases names with
      | nil => simp
      | cons name rest =>
          have hfilter := List.length_filter_le (fun other => !other == name) rest
          rw [List.length_cons] at hlength
          have hrest := ih _ (by omega) (rest.filter fun other => !other == name) rfl
          rw [List.eraseDups_cons, List.length_cons]
          omega

theorem length_eraseDups_eq_iff {names : List String} :
    names.eraseDups.length = names.length ↔ names.Nodup := by
  induction names with
  | nil => simp
  | cons name rest ih =>
      rw [List.eraseDups_cons, List.length_cons, List.length_cons, Nat.add_right_cancel_iff,
        List.nodup_cons]
      by_cases hname : name ∈ rest
      · -- A repeated name is filtered out, so that fewer names are left.
        have hfewer : (rest.filter fun other => !other == name).length < rest.length :=
          List.length_filter_lt_length_iff_exists.2 ⟨name, hname, by simp⟩
        have hmost := length_eraseDups_le (rest.filter fun other => !other == name)
        exact iff_of_false (by omega) fun h => h.1 hname
      · have hkept : (rest.filter fun other => !other == name) = rest := by
          refine List.filter_eq_self.2 fun other hother => ?_
          simpa using ne_of_mem_of_not_mem hother hname
        rw [hkept, ih]
        simp [hname]

theorem valid_iff :
    t.Valid ↔ (∀ name ∈ t.names, Text.isGroupName name.toList = true) ∧ t.names.Nodup := by
  rw [Valid, Bool.and_eq_true, List.all_eq_true, beq_iff_eq, length_eraseDups_eq_iff]

theorem Covers.slashFree (h : t.Covers fields)
    (hsegments : ∀ name ∈ t.names, ∃ value, Keyed.get? name fields = some value ∧ IsSegment value) :
    SlashFree fields := by
  intro e he
  obtain ⟨value, hget, hsegment⟩ := hsegments e.1 (h.named e he)
  rw [h.ascending.get?_of_mem he, Option.some.injEq] at hget
  rw [hget]
  exact hsegment.2

theorem parse_eq_some_iff (hvalid : t.Valid) (hsep : Separated false t.segments) :
    t.parse text = some fields ↔ t.Covers fields ∧
      (∀ name ∈ t.names, ∃ value, Keyed.get? name fields = some value ∧ IsSegment value) ∧
      t.render fields = .ok text := by
  have hnames := (valid_iff.1 hvalid).2
  constructor
  · intro h
    exact ⟨covers_of_parse h, isSegment_get?_of_parse hnames h, render_of_parse hnames h⟩
  · rintro ⟨hcovers, hsegments, hrender⟩
    rw [hcovers.parse_of_render hvalid hsep hrender, if_pos (hcovers.slashFree hsegments)]

def only (t : Template) (fields : Fields) : Fields := fields.filter (t.names.contains ·.1)

theorem filled_of_get? (hget : Keyed.get? name fields = some value)
    (hvalue : value.isEmpty = false) : Filled fields name := by
  rw [Filled, value?, String.ofList_toList, hget, Option.filter_some, hvalue]
  rfl

end Reconcile.Template
