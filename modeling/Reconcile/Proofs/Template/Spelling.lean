import Reconcile.Proofs.Except
import Reconcile.Proofs.Keyed
import Reconcile.Template

namespace Reconcile.Template

variable {segments rest : List Segment} {fields values more : Fields} {s s' : List Char}
  {text name : List Char} {e : Failure} {t : Template}

inductive Spells : List Segment → Fields → List Char → Prop
  | nil : Spells [] [] []
  | literal {text : List Char} {segments : List Segment} {values : Fields} {s : List Char} :
      Spells segments values s → Spells (.literal text :: segments) values (text ++ s)
  | field {name : List Char} {value : String} {segments : List Segment} {values : Fields}
      {s : List Char} :
      value.toList ≠ [] → Spells segments values s →
      Spells (.field name :: segments) ((String.ofList name, value) :: values) (value.toList ++ s)

def SlashFree (values : Fields) : Prop :=
  ∀ e ∈ values, '/' ∉ e.2.toList

instance (values : Fields) : Decidable (SlashFree values) :=
  inferInstanceAs (Decidable (∀ e ∈ values, '/' ∉ e.2.toList))

theorem slashFree_cons {e : String × String} :
    SlashFree (e :: values) ↔ '/' ∉ e.2.toList ∧ SlashFree values := by
  simp [SlashFree]

theorem longest_eq_some {next : List Char → Option Fields} {name : String} {most : Nat}
    (h : longest next name s most = some values) :
    ∃ n more, n < most ∧ next (s.drop (n + 1)) = some more ∧
      values = (name, String.ofList (s.take (n + 1))) :: more := by
  induction most with
  | zero => cases h
  | succ most ih =>
      unfold longest at h
      cases hnext : next (s.drop (most + 1)) with
      | some more =>
          rw [hnext, Option.some.injEq] at h
          exact ⟨most, more, Nat.lt_succ_self most, hnext, h.symm⟩
      | none =>
          rw [hnext] at h
          obtain ⟨n, more, hn, hmore⟩ := ih h
          exact ⟨n, more, Nat.lt_succ_of_lt hn, hmore⟩

theorem longest_isSome {next : List Char → Option Fields} {name : String} {n most : Nat}
    (hn : n < most) (h : (next (s.drop (n + 1))).isSome) :
    (longest next name s most).isSome := by
  induction most with
  | zero => exact absurd hn (Nat.not_lt_zero n)
  | succ most ih =>
      unfold longest
      cases hnext : next (s.drop (most + 1)) with
      | some more => rfl
      | none =>
          rcases Nat.lt_succ_iff_lt_or_eq.1 hn with hlt | heq
          · exact ih hlt
          · rw [heq, hnext] at h
            cases h

theorem not_mem_take_of_le {n : Nat} (h : n ≤ (s.takeWhile (· != '/')).length) :
    '/' ∉ s.take n := by
  induction s generalizing n with
  | nil => simp
  | cons c cs ih =>
      cases n with
      | zero => simp
      | succ n =>
          by_cases hc : c = '/'
          · simp [hc] at h
          · simp only [List.takeWhile_cons, bne_iff_ne, ne_eq, hc, not_false_eq_true, if_true,
              List.length_cons] at h
            have hcs := ih (Nat.le_of_succ_le_succ h)
            simp [hcs, Ne.symm hc]

theorem takeWhile_append_of_not_mem {text : List Char} (h : '/' ∉ text) :
    (text ++ s).takeWhile (· != '/') = text ++ s.takeWhile (· != '/') := by
  apply List.takeWhile_append_of_pos
  intro c hc
  simp only [bne_iff_ne]
  rintro rfl
  exact h hc

theorem takeWhile_append_of_mem {text : List Char} (h : '/' ∈ text) :
    (text ++ s).takeWhile (· != '/') = text.takeWhile (· != '/') := by
  induction text with
  | nil => cases h
  | cons c cs ih =>
      by_cases hc : c = '/'
      · simp [hc]
      · have hcs : '/' ∈ cs := by simpa [Ne.symm hc] using h
        simp [hc, ih hcs]

theorem parseSegments_sound (h : parseSegments segments s = some values) :
    Spells segments values s ∧ SlashFree values := by
  induction segments generalizing s values with
  | nil =>
      unfold parseSegments at h
      split at h
      · next hs =>
          rw [List.isEmpty_iff] at hs
          rw [Option.some.injEq] at h
          subst hs h
          exact ⟨.nil, nofun⟩
      · cases h
  | cons segment rest ih =>
      cases segment with
      | literal text =>
          obtain ⟨s', hafter, hrest⟩ := Option.bind_eq_some_iff.1 h
          obtain ⟨hspells, hfree⟩ := ih hrest
          rw [Text.eq_of_after? hafter]
          exact ⟨.literal hspells, hfree⟩
      | field name =>
          obtain ⟨n, more, hn, hrest, rfl⟩ := longest_eq_some h
          obtain ⟨hspells, hfree⟩ := ih hrest
          have hvalue : (s.take (n + 1)) ≠ [] := by
            intro hnil
            rw [List.take_eq_nil_iff] at hnil
            rcases hnil with hnil | hnil
            · cases hnil
            · rw [hnil] at hn
              cases hn
          constructor
          · have hs : Spells (.field name :: rest)
                ((String.ofList name, String.ofList (s.take (n + 1))) :: more)
                ((String.ofList (s.take (n + 1))).toList ++ s.drop (n + 1)) :=
              .field (by simpa using hvalue) hspells
            simpa using hs
          · refine slashFree_cons.2 ⟨?_, hfree⟩
            simpa using not_mem_take_of_le hn

theorem parseSegments_isSome (h : Spells segments values s) (hfree : SlashFree values) :
    (parseSegments segments s).isSome := by
  induction h with
  | nil => rfl
  | literal hs ih =>
      simp only [parseSegments, Text.after?_append, Option.bind_some]
      exact ih hfree
  | @field name value segments values s hvalue hs ih =>
      obtain ⟨hslash, hfree⟩ := slashFree_cons.1 hfree
      dsimp only at hslash
      -- The value itself is among the lengths tried: it ends at the latest at the next slash.
      have hlength : value.toList.length - 1 + 1 = value.toList.length := by
        have hpos := List.length_pos_iff.2 hvalue
        omega
      have hn : value.toList.length - 1 < ((value.toList ++ s).takeWhile (· != '/')).length := by
        rw [takeWhile_append_of_not_mem hslash, List.length_append]
        omega
      apply longest_isSome hn
      rw [hlength, List.drop_left]
      exact ih hfree

/-- Between two fields there is a slash; `held` if none was seen since the last field. -/
def Separated (held : Bool) : List Segment → Prop
  | [] => True
  | .literal text :: rest => Separated (held && !text.contains '/') rest
  | .field _ :: rest => held = false ∧ Separated true rest

instance decidableSeparated (held : Bool) (segments : List Segment) :
    Decidable (Separated held segments) :=
  match segments with
  | [] => inferInstanceAs (Decidable True)
  | .literal _ :: rest => decidableSeparated _ rest
  | .field _ :: rest =>
      have := decidableSeparated true rest
      inferInstanceAs (Decidable (held = false ∧ Separated true rest))

theorem Separated.takeWhile_eq (h : Separated true segments) (hs : Spells segments values s)
    (hs' : Spells segments more s') :
    s.takeWhile (· != '/') = s'.takeWhile (· != '/') := by
  induction segments generalizing s s' with
  | nil =>
      cases hs
      cases hs'
      rfl
  | cons segment rest ih =>
      cases segment with
      | field name => cases h.1
      | literal text =>
          cases hs with | @literal _ _ _ s hs =>
          cases hs' with | @literal _ _ _ s' hs' =>
          by_cases hslash : '/' ∈ text
          · rw [takeWhile_append_of_mem hslash, takeWhile_append_of_mem hslash]
          · have hrest : Separated true rest := by simpa [Separated, hslash] using h
            rw [takeWhile_append_of_not_mem hslash, takeWhile_append_of_not_mem hslash,
              ih hrest hs hs']

theorem Separated.unique {held : Bool} (h : Separated held segments) (hs : Spells segments values s)
    (hs' : Spells segments more s) (hfree : SlashFree values) (hfree' : SlashFree more) :
    values = more := by
  induction segments generalizing held s values more with
  | nil =>
      cases hs
      cases hs'
      rfl
  | cons segment rest ih =>
      cases segment with
      | literal text =>
          generalize heq : s = whole at hs'
          cases hs with | @literal _ _ _ s hs =>
          cases hs' with | @literal _ _ _ s' hs' =>
          rw [List.append_cancel_left heq] at hs
          exact ih h hs hs' hfree hfree'
      | field name =>
          generalize heq : s = whole at hs'
          cases hs with | @field _ value _ values s hvalue hs =>
          cases hs' with | @field _ value' _ more s' hvalue' hs' =>
          obtain ⟨hslash, hfree⟩ := slashFree_cons.1 hfree
          obtain ⟨hslash', hfree''⟩ := slashFree_cons.1 hfree'
          -- Up to the next slash the text is a value and then the same literals both times.
          have htail := h.2.takeWhile_eq hs hs'
          have hhead := congrArg (List.takeWhile (· != '/')) heq
          rw [takeWhile_append_of_not_mem hslash, takeWhile_append_of_not_mem hslash', htail]
            at hhead
          have hsame : value = value' := String.toList_injective (List.append_cancel_right hhead)
          subst hsame
          rw [List.append_cancel_left heq] at hs
          rw [ih h.2 hs hs' hfree hfree'']

def slashes : List Segment → Nat
  | [] => 0
  | .literal text :: rest => text.count '/' + slashes rest
  | .field _ :: rest => slashes rest

theorem Spells.slashFree_iff (h : Spells segments values s) :
    slashes segments ≤ s.count '/' ∧ (SlashFree values ↔ s.count '/' = slashes segments) := by
  induction h with
  | nil => simp [slashes, SlashFree]
  | literal hs ih =>
      simp only [slashes, List.count_append]
      exact ⟨by omega, by rw [ih.2]; omega⟩
  | @field name value segments values s hvalue hs ih =>
      have hslash : '/' ∉ value.toList ↔ value.toList.count '/' = 0 := List.count_eq_zero.symm
      simp only [slashes, List.count_append, slashFree_cons]
      exact ⟨by omega, by rw [ih.2, hslash]; omega⟩

theorem parseSegments_eq_none (h : Spells segments values s) (hheld : ¬ SlashFree values) :
    parseSegments segments s = none := by
  cases hparse : parseSegments segments s with
  | none => rfl
  | some more =>
      -- Read without slashes in the values, the text would have fewer slashes than it has.
      obtain ⟨hspells, hfree⟩ := parseSegments_sound hparse
      exact absurd (h.slashFree_iff.2.2 (hspells.slashFree_iff.2.1 hfree)) hheld

theorem Separated.parseSegments_eq_some {held : Bool} (hsep : Separated held segments)
    (h : Spells segments values s) (hfree : SlashFree values) :
    parseSegments segments s = some values := by
  cases hparse : parseSegments segments s with
  | none =>
      have hsome := parseSegments_isSome h hfree
      rw [hparse] at hsome
      cases hsome
  | some more =>
      obtain ⟨hspells, hfree'⟩ := parseSegments_sound hparse
      rw [hsep.unique h hspells hfree hfree']

theorem Spells.names (h : Spells t.segments values s) : values.map (·.1) = t.names := by
  unfold Template.names
  generalize t.segments = segments at h
  induction h with
  | nil => rfl
  | literal hs ih => simpa using ih
  | field hvalue hs ih => simpa using ih

theorem renderSegments_spells {text : List Char}
    (h : renderSegments t fields segments = .ok text) :
    ∃ values, Spells segments values text ∧ ∀ e ∈ values, Keyed.get? e.1 fields = some e.2 := by
  induction segments generalizing text with
  | nil =>
      unfold renderSegments at h
      rw [Except.ok.injEq] at h
      subst h
      exact ⟨[], .nil, nofun⟩
  | cons segment rest ih =>
      cases segment with
      | literal lead =>
          obtain ⟨s, hrest, rfl⟩ := map_eq_ok_iff.1 h
          obtain ⟨values, hspells, hsaid⟩ := ih hrest
          exact ⟨values, .literal hspells, hsaid⟩
      | field name =>
          unfold renderSegments at h
          cases hvalue : value? fields name with
          | none =>
              rw [hvalue] at h
              cases h
          | some value =>
              rw [hvalue] at h
              obtain ⟨s, hrest, rfl⟩ := map_eq_ok_iff.1 h
              obtain ⟨values, hspells, hsaid⟩ := ih hrest
              obtain ⟨hget, hfilled⟩ := Option.filter_eq_some_iff.1 hvalue
              refine ⟨_, .field ?_ hspells, ?_⟩
              · simpa [String.isEmpty_iff] using hfilled
              · intro e he
                rcases List.mem_cons.1 he with rfl | he
                · exact hget
                · exact hsaid e he

theorem renderSegments_error (h : renderSegments t fields segments = .error e) :
    ∃ field flaw, e = .invalid field flaw := by
  induction segments with
  | nil => cases h
  | cons segment rest ih =>
      cases segment with
      | literal lead => exact ih (map_eq_error_iff.1 h)
      | field name =>
          unfold renderSegments at h
          split at h
          · exact ih (map_eq_error_iff.1 h)
          · cases h
            exact ⟨_, _, rfl⟩

theorem render_error (h : t.render fields = .error e) : ∃ field flaw, e = .invalid field flaw :=
  renderSegments_error (map_eq_error_iff.1 h)

def restrict (t : Template) (fields : Fields) : Fields :=
  t.names.filterMap fun name => (Keyed.get? name fields).map (name, ·)

theorem mem_restrict {e : String × String} :
    e ∈ t.restrict fields ↔ e.1 ∈ t.names ∧ Keyed.get? e.1 fields = some e.2 := by
  simp only [restrict, List.mem_filterMap, Option.map_eq_some_iff]
  constructor
  · rintro ⟨name, hname, value, hget, rfl⟩
    exact ⟨hname, hget⟩
  · rintro ⟨hname, hget⟩
    exact ⟨e.1, hname, e.2, hget, rfl⟩

theorem eq_restrict (hnames : values.map (·.1) = t.names)
    (hsaid : ∀ e ∈ values, Keyed.get? e.1 fields = some e.2) : values = t.restrict fields := by
  unfold restrict
  rw [← hnames]
  clear hnames
  induction values with
  | nil => rfl
  | cons e rest ih =>
      have he := hsaid e List.mem_cons_self
      have hrest := ih fun d hd => hsaid d (List.mem_cons_of_mem e hd)
      simp only [List.map_cons, List.filterMap_cons, he, Option.map_some]
      rw [← hrest]

def Valid (t : Template) : Prop :=
  (t.names.all (Text.isGroupName ·.toList) && t.names.eraseDups.length == t.names.length) = true

instance (t : Template) : Decidable t.Valid :=
  inferInstanceAs (Decidable (_ = true))

theorem render_spells {text : String} (h : t.render fields = .ok text) :
    Spells t.segments (t.restrict fields) text.toList := by
  obtain ⟨rendered, hrender, rfl⟩ := map_eq_ok_iff.1 h
  obtain ⟨values, hspells, hsaid⟩ := renderSegments_spells hrender
  rw [← eq_restrict hspells.names hsaid, String.toList_ofList]
  exact hspells

theorem parse_of_render {text : String} (hvalid : t.Valid) (hsep : Separated false t.segments)
    (h : t.render fields = .ok text) :
    t.parse text = if SlashFree (t.restrict fields) then some (Keyed.ofList (t.restrict fields))
      else none := by
  have hspells := render_spells h
  have hparse : t.parse text = (parseSegments t.segments text.toList).map Keyed.ofList :=
    if_pos hvalid
  rw [hparse]
  split
  · next hfree => rw [hsep.parseSegments_eq_some hspells hfree, Option.map_some]
  · next hheld => rw [parseSegments_eq_none hspells hheld, Option.map_none]

def Filled (fields : Fields) (name : String) : Prop :=
  (value? fields name.toList).isSome

theorem renderSegments_ok_iff (t : Template) (fields : Fields) (segments : List Segment) :
    (∃ text, renderSegments t fields segments = .ok text) ↔
      ∀ name, .field name ∈ segments → (value? fields name).isSome := by
  induction segments with
  | nil => simp [renderSegments]
  | cons segment rest ih =>
      cases segment with
      | literal text =>
          simp only [renderSegments, map_eq_ok_iff, List.mem_cons, reduceCtorEq, false_or]
          rw [← ih]
          constructor
          · rintro ⟨_, s, hrest, _⟩
            exact ⟨s, hrest⟩
          · rintro ⟨s, hrest⟩
            exact ⟨_, s, hrest, rfl⟩
      | field name =>
          simp only [renderSegments, List.mem_cons, Segment.field.injEq]
          cases hvalue : value? fields name with
          | none =>
              constructor
              · rintro ⟨_, h⟩
                cases h
              · intro h
                have hname := h name (Or.inl rfl)
                rw [hvalue] at hname
                cases hname
          | some value =>
              simp only [map_eq_ok_iff]
              constructor
              · rintro ⟨_, s, hrest, _⟩ other (rfl | hother)
                · rw [hvalue]
                  rfl
                · exact ih.1 ⟨s, hrest⟩ other hother
              · intro h
                obtain ⟨s, hrest⟩ := ih.2 fun other hother => h other (Or.inr hother)
                exact ⟨_, s, hrest, rfl⟩

theorem mem_names {name : String} : name ∈ t.names ↔ .field name.toList ∈ t.segments := by
  simp only [names, List.mem_filterMap]
  constructor
  · rintro ⟨segment, hsegment, h⟩
    cases segment with
    | literal text => cases h
    | field raw =>
        rw [Option.some.injEq] at h
        subst h
        simpa using hsegment
  · intro h
    exact ⟨_, h, by simp⟩

theorem render_ok_iff :
    (∃ text, t.render fields = .ok text) ↔ ∀ name ∈ t.names, Filled fields name := by
  have hsegments := renderSegments_ok_iff t fields t.segments
  constructor
  · rintro ⟨text, h⟩ name hname
    obtain ⟨rendered, hrender, _⟩ := map_eq_ok_iff.1 h
    exact hsegments.1 ⟨rendered, hrender⟩ _ (mem_names.1 hname)
  · intro h
    obtain ⟨rendered, hrender⟩ := hsegments.2 fun raw hraw => by
      have hname := h (String.ofList raw) (mem_names.2 (by simpa using hraw))
      simpa [Filled] using hname
    exact ⟨_, map_eq_ok_iff.2 ⟨rendered, hrender, rfl⟩⟩

structure Covers (t : Template) (fields : Fields) : Prop where
  ascending : Keyed.Ascending fields
  named : ∀ e ∈ fields, e.1 ∈ t.names

theorem Covers.ext (h : t.Covers fields) (h' : t.Covers more)
    (heq : ∀ name ∈ t.names, Keyed.get? name fields = Keyed.get? name more) : fields = more := by
  have hnone : ∀ {fields}, t.Covers fields → ∀ {key}, key ∉ t.names →
      Keyed.get? key fields = none := by
    intro fields h key hkey
    rw [Keyed.get?_eq_none_iff]
    intro hmem
    obtain ⟨e, he, rfl⟩ := List.mem_map.1 hmem
    exact hkey (h.named e he)
  apply h.ascending.ext h'.ascending
  intro key
  by_cases hkey : key ∈ t.names
  · exact heq key hkey
  · rw [hnone h hkey, hnone h' hkey]

theorem Covers.mem_restrict_iff (h : t.Covers fields) {e : String × String} :
    e ∈ t.restrict fields ↔ e ∈ fields := by
  rw [mem_restrict]
  constructor
  · rintro ⟨_, hget⟩
    exact Keyed.mem_of_get? hget
  · intro he
    exact ⟨h.named e he, h.ascending.get?_of_mem he⟩

theorem Covers.parse_of_render {text : String} (hfields : t.Covers fields) (hvalid : t.Valid)
    (hsep : Separated false t.segments) (h : t.render fields = .ok text) :
    t.parse text = if SlashFree fields then some fields else none := by
  have hsame : SlashFree (t.restrict fields) ↔ SlashFree fields := by
    simp only [SlashFree, hfields.mem_restrict_iff]
  rw [Template.parse_of_render hvalid hsep h]
  simp only [hsame, hfields.ascending.ofList_eq fun e => hfields.mem_restrict_iff]

end Reconcile.Template
