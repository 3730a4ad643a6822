import Mathlib.Data.List.Nodup
import Mathlib.Data.List.Pairwise
import Reconcile.Proofs.Json.Record
import Reconcile.Record

namespace Reconcile

variable {σ : Type}

namespace Field

def ReadsBack (field : Field σ) (s : σ) : Prop :=
  ∀ j, field.write s = some j → ∀ t, ∃ t', field.read j t = .ok t' ∧ field.write t' = some j

def Apart (field other : Field σ) : Prop := field.Keeps other.write ∧ other.Keeps field.write

instance : Std.Symm (@Apart σ) := ⟨fun _ _ h => h.symm⟩

variable {name : String} {s : σ}

theorem text_absent {get : σ → String} {set : String → σ → σ} (s t : σ)
    (h : (text name get set).write s = none) : (text name get set).write t = none :=
  absurd h (Option.some_ne_none _)

theorem text_readsBack {get : σ → String} {set : String → σ → σ} (h : ∀ v t, get (set v t) = v) :
    (text name get set).ReadsBack s := by
  intro j hj t
  cases hj
  exact ⟨set (get s) t, rfl, congrArg (some ∘ Json.str) (h _ _)⟩

theorem optionalText_readsBack {get : σ → Option String} {set : Option String → σ → σ}
    (h : ∀ v t, get (set v t) = v) : (optionalText name get set).ReadsBack s := by
  intro j hj t
  obtain ⟨v, _, rfl⟩ := Option.map_eq_some_iff.1 hj
  exact ⟨set (some v) t, rfl, congrArg (Option.map Json.str) (h _ _)⟩

theorem optionalSigned_readsBack {get : σ → Option Int} {set : Option Int → σ → σ}
    (h : ∀ v t, get (set v t) = v)
    (hrange : ∀ n ∈ get s, Decode.minSigned ≤ n ∧ n ≤ Decode.maxSigned) :
    (optionalSigned name get set).ReadsBack s := by
  intro j hj t
  obtain ⟨n, hn, rfl⟩ := Option.map_eq_some_iff.1 hj
  have hread : Decode.optional Decode.signed (.int n) = .ok (some n) := by
    show (Decode.signed (.int n)).map some = _
    rw [Decode.signed, if_pos (hrange n hn)]
    rfl
  refine ⟨set (some n) t, ?_, congrArg (Option.map Json.int) (h _ _)⟩
  show (Decode.optional Decode.signed (.int n)).map _ = _
  rw [hread]
  rfl

theorem mapM_string (values : List String) :
    (values.map Json.str).mapM Decode.string = .ok values := by
  induction values with
  | nil => rfl
  | cons v rest ih =>
      rw [List.map_cons, List.mapM_cons, ih]
      rfl

theorem texts_write (get : σ → List String) (set : List String → σ → σ) (s : σ) :
    (texts name get set).write s =
      if (get s).isEmpty then none else some (.arr ((get s).map .str)) := rfl

theorem texts_readsBack {get : σ → List String} {set : List String → σ → σ}
    (h : ∀ t, get (set (get s) t) = get s) : (texts name get set).ReadsBack s := by
  intro j hj t
  rw [texts_write] at hj
  split at hj
  · cases hj
  · next hfilled =>
      cases hj
      refine ⟨set (get s) t, ?_, ?_⟩
      · show (Decode.list Decode.string (.arr ((get s).map .str))).map _ = _
        rw [Decode.list, mapM_string]
        rfl
      · rw [texts_write, h, if_neg hfilled]

theorem text_write_inj {get : σ → String} {set : String → σ → σ} {s t : σ}
    (h : (text name get set).write s = (text name get set).write t) : get s = get t :=
  Json.str.inj (Option.some.inj h)

theorem optionalText_write_inj {get : σ → Option String} {set : Option String → σ → σ} {s t : σ}
    (h : (optionalText name get set).write s = (optionalText name get set).write t) :
    get s = get t :=
  Option.map_injective (fun _ _ => Json.str.inj) h

theorem optionalSigned_write_inj {get : σ → Option Int} {set : Option Int → σ → σ} {s t : σ}
    (h : (optionalSigned name get set).write s = (optionalSigned name get set).write t) :
    get s = get t :=
  Option.map_injective (fun _ _ => Json.int.inj) h

theorem texts_write_inj {get : σ → List String} {set : List String → σ → σ} {s t : σ}
    (h : (texts name get set).write s = (texts name get set).write t) : get s = get t := by
  rw [texts_write, texts_write] at h
  split at h
  · next hs =>
      split at h
      · next ht => rw [List.isEmpty_iff.1 hs, List.isEmpty_iff.1 ht]
      · cases h
  · split at h
    · cases h
    · exact List.map_injective_iff.2 (fun _ _ => Json.str.inj) (Json.arr.inj (Option.some.inj h))

end Field

namespace Decode

variable {fields : List (Field σ)} {initial s t : σ} {listed : List (String × Json)}

theorem range_of_optional_signed {j : Json} {n : Int} (h : optional signed j = .ok (some n)) :
    minSigned ≤ n ∧ n ≤ maxSigned := by
  cases j with
  | int m =>
      have hread : (signed (.int m)).map some = .ok (some n) := h
      rw [signed] at hread
      split at hread
      · next hrange =>
          cases hread
          exact hrange
      · cases hread
  | _ => cases h

/-- Fields that between them say all there is to a record: each name is that of one field, no field
touches what another writes, an unwritten field is unwritten from the start, and records of which
the same is written are the same. -/
structure Codec (fields : List (Field σ)) (initial : σ) : Prop where
  names : (fields.map (·.name)).Nodup
  apart : fields.Pairwise Field.Apart
  absent : ∀ field ∈ fields, ∀ s, field.write s = none → field.write initial = none
  ext : ∀ s t, (∀ field ∈ fields, field.write s = field.write t) → s = t

structure Tells (fields : List (Field σ)) (s : σ) (listed : List (String × Json)) : Prop where
  written : ∀ e ∈ listed, ∀ field ∈ fields, field.name = e.1 → field.write s = some e.2
  told : ∀ field ∈ fields, ∀ j, field.write s = some j → (field.name, j) ∈ listed

theorem Codec.eq_of_name (h : Codec fields initial) {field other : Field σ}
    (hfield : field ∈ fields) (hother : other ∈ fields) (hname : field.name = other.name) :
    field = other :=
  List.inj_on_of_nodup_map h.names hfield hother hname

theorem Codec.keeps (h : Codec fields initial) {field other : Field σ} (hfield : field ∈ fields)
    (hother : other ∈ fields) (hname : other.name ≠ field.name) : field.Keeps other.write := by
  exact (h.apart.forall hfield hother fun hsame => hname (congrArg Field.name hsame.symm)).1

theorem Codec.exists_members (h : Codec fields initial)
    (hback : ∀ field ∈ fields, field.ReadsBack s)
    (hwritten : ∀ e ∈ listed, ∀ field ∈ fields, field.name = e.1 → field.write s = some e.2) :
    ∃ t', members fields t listed = .ok t' ∧ ∀ field ∈ fields,
      field.write t' = if field.name ∈ listed.map (·.1) then field.write s else field.write t := by
  induction listed generalizing t with
  | nil => exact ⟨t, rfl, fun _ _ => rfl⟩
  | cons e rest ih =>
      have hrest := fun d hd => hwritten d (List.mem_cons_of_mem e hd)
      cases hfind : fields.find? (·.name == e.1) with
      | none =>
          have hother : ∀ field ∈ fields, field.name ≠ e.1 := by
            simpa using List.find?_eq_none.1 hfind
          obtain ⟨t', hread, hwrite⟩ := ih (t := t) hrest
          refine ⟨t', ?_, ?_⟩
          · rw [members, List.foldlM_cons, member, hfind]
            exact hread
          · intro field hfield
            rw [hwrite field hfield, List.map_cons]
            simp only [List.mem_cons, hother field hfield, false_or]
      | some field =>
          have hfield := List.mem_of_find?_eq_some hfind
          have hname : field.name = e.1 := by simpa using List.find?_some hfind
          have hsaid := hwritten e List.mem_cons_self field hfield hname
          obtain ⟨next, hnext, hrestored⟩ := hback field hfield e.2 hsaid t
          obtain ⟨t', hread, hwrite⟩ := ih (t := next) hrest
          refine ⟨t', ?_, ?_⟩
          · rw [members, List.foldlM_cons, member, hfind]
            exact bind_eq_ok_iff.2 ⟨next, hnext, hread⟩
          · intro other hother
            rw [hwrite other hother, List.map_cons]
            simp only [List.mem_cons]
            by_cases hsame : other.name = e.1
            · obtain rfl := h.eq_of_name hother hfield (hsame.trans hname.symm)
              simp only [hsame, true_or, if_true, hrestored, hsaid, ite_self]
            · have hkept := h.keeps hfield hother (hname ▸ hsame) _ _ _ hnext
              simp only [hsame, false_or, hkept]

theorem Codec.members_eq (h : Codec fields initial) (hback : ∀ field ∈ fields, field.ReadsBack s)
    (htells : Tells fields s listed) : members fields initial listed = .ok s := by
  obtain ⟨t, hread, hwrite⟩ := h.exists_members hback (t := initial) htells.written
  rw [hread, Except.ok.injEq]
  apply h.ext
  intro field hfield
  rw [hwrite field hfield]
  split
  · rfl
  · next hunsaid =>
      have hnone : field.write s = none := by
        by_contra hsome
        obtain ⟨j, hj⟩ := Option.ne_none_iff_exists'.1 hsome
        exact hunsaid (List.mem_map_of_mem (htells.told field hfield j hj))
      rw [hnone, h.absent field hfield s hnone]

theorem keys_entries (fields : List (Field σ)) (s : σ) :
    ((entries fields s).map (·.1)).Sublist (fields.map (·.name)) := by
  induction fields with
  | nil => exact List.Sublist.refl _
  | cons field rest ih =>
      rw [entries, List.filterMap_cons]
      cases field.write s with
      | none => exact ih.cons _
      | some j => exact ih.cons_cons _

theorem get?_entries (h : (fields.map (·.name)).Nodup) (s : σ) (key : String) :
    Keyed.get? key (entries fields s) =
      (Keyed.get? key (fields.map fun field => (field.name, field.write s))).join := by
  induction fields with
  | nil => rfl
  | cons field rest ih =>
      obtain ⟨hfirst, hrest⟩ := List.nodup_cons.1 h
      rw [List.map_cons, Keyed.get?, entries, List.filterMap_cons]
      by_cases hname : field.name = key
      · rw [if_pos hname, Option.join_some]
        cases field.write s with
        | some j => simp only [Option.map_some, Keyed.get?, if_pos hname]
        | none =>
            have hunsaid : key ∉ (entries rest s).map (·.1) := by
              intro hkey
              rw [← hname] at hkey
              exact hfirst ((keys_entries rest s).subset hkey)
            exact Keyed.get?_eq_none_iff.2 hunsaid
      · rw [if_neg hname, ← ih hrest]
        cases field.write s with
        | some j => simp only [Option.map_some, Keyed.get?, if_neg hname, entries]
        | none => rfl

end Decode

namespace Record

variable {k : Kind σ} {r : Record σ} {members : List (String × Json)}

def written (k : Kind σ) (r : Record σ) : List (String × Option Json) :=
  ("id", r.id.map .str) :: k.fields.map fun field => (field.name, field.write r.state)

theorem nodup_entries (hnames : ("id" :: k.fields.map (·.name)).Nodup) :
    ((r.entries k).map (·.1)).Nodup := by
  have hkeys := Decode.keys_entries k.fields r.state
  apply List.Nodup.sublist _ hnames
  rw [entries]
  cases r.id with
  | none => exact hkeys.cons "id"
  | some id => exact hkeys.cons_cons "id"

theorem get?_encode (hnames : ("id" :: k.fields.map (·.name)).Nodup) (key : String) :
    (r.encode k).get? key = (Keyed.get? key (r.written k)).join := by
  obtain ⟨hid, hfields⟩ := List.nodup_cons.1 hnames
  rw [encode, Json.get?, Keyed.get?_ofList_of_nodup (nodup_entries hnames), written, Keyed.get?,
    entries, Keyed.get?_append, Decode.get?_entries hfields]
  cases r.id with
  | none =>
      by_cases hkey : "id" = key
      · subst hkey
        rw [if_pos rfl, ← Decode.get?_entries hfields]
        exact Keyed.get?_eq_none_iff.2 fun h => hid ((Decode.keys_entries _ _).subset h)
      · rw [if_neg hkey]
        rfl
  | some id =>
      by_cases hkey : "id" = key
      · simp only [Keyed.get?, if_pos hkey, Option.some_or, Option.map_some, Option.join_some]
      · simp only [Keyed.get?, if_neg hkey, Option.none_or]

theorem decode_encode (hcodec : Decode.Codec k.fields k.initial)
    (hid : "id" ∉ k.fields.map (·.name)) (hback : ∀ field ∈ k.fields, field.ReadsBack r.state) :
    decode k (r.encode k) = .ok r := by
  have hnames : ("id" :: k.fields.map (·.name)).Nodup := List.nodup_cons.2 ⟨hid, hcodec.names⟩
  have hread : readId (Keyed.ofList (r.entries k)) = .ok r.id := by
    have hget : Keyed.get? "id" (Keyed.ofList (r.entries k)) = r.id.map .str :=
      get?_encode hnames "id"
    rw [readId, hget]
    cases r.id <;> rfl
  have htells : Decode.Tells k.fields r.state (Keyed.ofList (r.entries k)) := by
    have hget : ∀ field ∈ k.fields,
        Keyed.get? field.name (Keyed.ofList (r.entries k)) = field.write r.state := by
      intro field hfield
      have hne : "id" ≠ field.name := fun h => hid (h ▸ List.mem_map_of_mem hfield)
      have hnodup : ((k.fields.map fun field => (field.name, field.write r.state)).map
          (·.1)).Nodup := by
        rw [List.map_map]
        exact hcodec.names
      have hlisted := Keyed.get?_of_nodup hnodup (List.mem_map_of_mem hfield)
      have hencoded : Keyed.get? field.name (Keyed.ofList (r.entries k)) = _ :=
        get?_encode hnames field.name
      rw [hencoded, written, Keyed.get?, if_neg hne, hlisted, Option.join_some]
    refine ⟨?_, ?_⟩
    · intro e he field hfield hname
      rw [← hget field hfield, hname]
      exact (Keyed.ascending_ofList _).get?_of_mem he
    · intro field hfield j hj
      apply Keyed.mem_of_get?
      rw [hget field hfield, hj]
  rw [encode, decode, hread, ok_bind, hcodec.members_eq hback htells]
  rfl

end Record

end Reconcile
