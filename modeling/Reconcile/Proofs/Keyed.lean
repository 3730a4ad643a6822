import Reconcile.Json.Basic

namespace Reconcile.Keyed

variable {α : Type} {key other : String} {value : α} {entries more : List (String × α)}
  {e : String × α}

def Ascending (entries : List (String × α)) : Prop :=
  entries.Pairwise fun a b => a.1 < b.1

theorem mem_of_get? (h : get? key entries = some value) : (key, value) ∈ entries := by
  induction entries with
  | nil => cases h
  | cons e rest ih =>
      unfold get? at h
      split at h
      · next hk =>
          rw [Option.some.injEq] at h
          subst hk h
          exact List.mem_cons_self
      · exact List.mem_cons_of_mem e (ih h)

theorem get?_eq_none_iff : get? key entries = none ↔ key ∉ entries.map (·.1) := by
  induction entries with
  | nil => simp [get?]
  | cons e rest ih =>
      unfold get?
      split
      · next hk => simp [hk]
      · next hk => simp [ih, Ne.symm hk]

theorem get?_append : get? key (entries ++ more) = (get? key entries).or (get? key more) := by
  induction entries with
  | nil => rfl
  | cons e rest ih =>
      simp only [List.cons_append, get?]
      split
      · rfl
      · exact ih

theorem get?_of_nodup (h : (entries.map (·.1)).Nodup) (hm : (key, value) ∈ entries) :
    get? key entries = some value := by
  induction entries with
  | nil => cases hm
  | cons e rest ih =>
      obtain ⟨hfirst, hrest⟩ := List.nodup_cons.1 h
      rcases List.mem_cons.1 hm with heq | hm
      · subst heq
        simp [get?]
      · have hne : e.1 ≠ key := by
          rintro rfl
          exact hfirst (List.mem_map.2 ⟨_, hm, rfl⟩)
        simp only [get?, hne, if_false]
        exact ih hrest hm

theorem Ascending.nodup (h : Ascending entries) : (entries.map (·.1)).Nodup := by
  refine List.pairwise_map.2 (h.imp fun {a b} hlt heq => ?_)
  rw [heq] at hlt
  exact String.lt_irrefl _ hlt

theorem Ascending.get?_of_mem (h : Ascending entries) (hm : (key, value) ∈ entries) :
    get? key entries = some value :=
  get?_of_nodup h.nodup hm

theorem mem_insert (h : e ∈ insert key value entries) : e = (key, value) ∨ e ∈ entries := by
  induction entries with
  | nil => exact Or.inl (List.mem_singleton.1 h)
  | cons d rest ih =>
      unfold insert at h
      split at h
      · rcases List.mem_cons.1 h with h | h
        · exact Or.inl h
        · exact Or.inr (List.mem_cons_of_mem d h)
      · split at h
        · exact List.mem_cons.1 h
        · rcases List.mem_cons.1 h with h | h
          · exact Or.inr (h ▸ List.mem_cons_self)
          · rcases ih h with h | h
            · exact Or.inl h
            · exact Or.inr (List.mem_cons_of_mem d h)

theorem lt_of_not_lt (hne : key ≠ other) (h : ¬ key < other) : other < key := by
  apply Classical.byContradiction
  intro hge
  exact hne (String.le_antisymm (String.not_lt.1 hge) (String.not_lt.1 h))

theorem Ascending.insert (h : Ascending entries) : Ascending (insert key value entries) := by
  induction entries with
  | nil => exact List.pairwise_singleton _ _
  | cons d rest ih =>
      obtain ⟨hfirst, hrest⟩ := List.pairwise_cons.1 h
      unfold Keyed.insert
      split
      · next hk =>
          subst hk
          exact List.pairwise_cons.2 ⟨hfirst, hrest⟩
      · next hne =>
          split
          · next hlt =>
              refine List.pairwise_cons.2 ⟨?_, h⟩
              intro e he
              rcases List.mem_cons.1 he with rfl | he
              · exact hlt
              · exact String.lt_trans hlt (hfirst e he)
          · next hle =>
              have hlt : d.1 < key := lt_of_not_lt hne hle
              refine List.pairwise_cons.2 ⟨?_, ih hrest⟩
              intro e he
              rcases mem_insert he with rfl | he
              · exact hlt
              · exact hfirst e he

theorem Ascending.foldl_insert (h : Ascending more) :
    Ascending (entries.foldl (fun acc e => Keyed.insert e.1 e.2 acc) more) := by
  induction entries generalizing more with
  | nil => exact h
  | cons e rest ih => exact ih h.insert

theorem ascending_ofList (entries : List (String × α)) : Ascending (ofList entries) :=
  Ascending.foldl_insert .nil

theorem mem_foldl_insert
    (h : e ∈ entries.foldl (fun acc e => Keyed.insert e.1 e.2 acc) more) :
    e ∈ entries ∨ e ∈ more := by
  induction entries generalizing more with
  | nil => exact Or.inr h
  | cons d rest ih =>
      rcases ih h with h | h
      · exact Or.inl (List.mem_cons_of_mem d h)
      · rcases mem_insert h with h | h
        · exact Or.inl (h ▸ List.mem_cons_self)
        · exact Or.inr h

theorem mem_ofList (h : e ∈ ofList entries) : e ∈ entries := by
  rcases mem_foldl_insert h with h | h
  · exact h
  · cases h

theorem get?_insert (key other : String) (value : α) (entries : List (String × α)) :
    get? other (insert key value entries) = if key = other then some value
      else get? other entries := by
  split
  · next h => rw [h, get?_insert_self]
  · next h => exact get?_insert_of_ne _ _ (Ne.symm h)

theorem get?_foldl_insert (key : String) (entries more : List (String × α)) :
    get? key (entries.foldl (fun acc e => Keyed.insert e.1 e.2 acc) more) =
      get? key (entries.reverse ++ more) := by
  induction entries generalizing more with
  | nil => rfl
  | cons e rest ih =>
      rw [List.foldl_cons, ih, get?_append, get?_insert, List.reverse_cons, List.append_assoc,
        get?_append]
      rfl

theorem get?_ofList (key : String) (entries : List (String × α)) :
    get? key (ofList entries) = get? key entries.reverse := by
  have h := get?_foldl_insert key entries []
  rwa [List.append_nil] at h

theorem get?_ofList_of_nodup (h : (entries.map (·.1)).Nodup) (key : String) :
    get? key (ofList entries) = get? key entries := by
  rw [get?_ofList]
  cases hget : get? key entries with
  | some value =>
      have hreverse : (entries.reverse.map (·.1)).Nodup := by
        rw [List.map_reverse]
        exact List.pairwise_reverse.2 (List.Pairwise.imp Ne.symm h)
      exact get?_of_nodup hreverse (List.mem_reverse.2 (mem_of_get? hget))
  | none =>
      rw [get?_eq_none_iff] at hget ⊢
      rwa [List.map_reverse, List.mem_reverse]

theorem Ascending.get?_head_eq_none (h : Ascending (e :: entries)) : get? e.1 entries = none := by
  rw [get?_eq_none_iff]
  intro hm
  obtain ⟨d, hd, heq⟩ := List.mem_map.1 hm
  have hlt := (List.pairwise_cons.1 h).1 d hd
  rw [heq] at hlt
  exact String.lt_irrefl _ hlt

theorem Ascending.head_eq {d : String × α} (h : Ascending (e :: entries))
    (h' : Ascending (d :: more)) (hd : d ∈ e :: entries) (he : e ∈ d :: more) : e = d := by
  rcases List.mem_cons.1 he with heq | he
  · exact heq
  · rcases List.mem_cons.1 hd with heq | hd
    · exact heq.symm
    · have hlt := (List.pairwise_cons.1 h).1 d hd
      have hgt := (List.pairwise_cons.1 h').1 e he
      exact absurd hgt (String.lt_asymm hlt)

theorem Ascending.ext (h : Ascending entries) (h' : Ascending more)
    (heq : ∀ key, get? key entries = get? key more) : entries = more := by
  induction entries generalizing more with
  | nil =>
      cases more with
      | nil => rfl
      | cons d rest =>
          have hd := heq d.1
          simp [get?] at hd
  | cons e rest ih =>
      -- The first keys are the same, since each would come before the other.
      have he : e ∈ more := by
        apply mem_of_get?
        rw [← heq]
        simp [get?]
      cases more with
      | nil => cases he
      | cons d rest' =>
          have hd : d ∈ e :: rest := by
            apply mem_of_get?
            rw [heq]
            simp [get?]
          have hhead := h.head_eq h' hd he
          subst hhead
          congr 1
          apply ih (List.pairwise_cons.1 h).2 (List.pairwise_cons.1 h').2
          intro key
          by_cases hk : e.1 = key
          · rw [← hk, h.get?_head_eq_none, h'.get?_head_eq_none]
          · have hkey := heq key
            simpa [get?, hk] using hkey

theorem Ascending.ofList_eq (h : Ascending entries) (hmem : ∀ e, e ∈ more ↔ e ∈ entries) :
    ofList more = entries := by
  apply (ascending_ofList more).ext h
  intro key
  rw [get?_ofList]
  cases hget : get? key more.reverse with
  | some value =>
      have hm := List.mem_reverse.1 (mem_of_get? hget)
      rw [h.get?_of_mem ((hmem _).1 hm)]
  | none =>
      cases hvalue : get? key entries with
      | none => rfl
      | some value =>
          have hm := List.mem_reverse.2 ((hmem _).2 (mem_of_get? hvalue))
          exact absurd (List.mem_map_of_mem hm) (get?_eq_none_iff.1 hget)

section FilterMap

variable {β : Type}

theorem fst_filterMap_sublist (f : α → Option β) (entries : List (String × α)) :
    ((entries.filterMap fun e => (f e.2).map (e.1, ·)).map (·.1)).Sublist
      (entries.map (·.1)) := by
  induction entries with
  | nil => exact .slnil
  | cons e rest ih =>
      rw [List.filterMap_cons]
      cases f e.2 with
      | none => exact ih.cons _
      | some value => exact ih.cons_cons _

theorem get?_filterMap (h : (entries.map (·.1)).Nodup) (f : α → Option β) (key : String) :
    get? key (entries.filterMap fun e => (f e.2).map (e.1, ·)) = (get? key entries).bind f := by
  induction entries with
  | nil => rfl
  | cons e rest ih =>
      obtain ⟨hfirst, hrest⟩ := List.nodup_cons.1 h
      rw [List.filterMap_cons]
      by_cases hk : e.1 = key
      · subst hk
        simp only [get?, if_true, Option.bind_some]
        cases hf : f e.2 with
        | some value => simp only [Option.map_some, get?, if_true]
        | none =>
            rw [Option.map_none, get?_eq_none_iff]
            exact fun hmem => hfirst ((fst_filterMap_sublist f rest).subset hmem)
      · rw [get?, if_neg hk, ← ih hrest]
        cases f e.2 with
        | some value => simp only [Option.map_some, get?, if_neg hk]
        | none => rfl

theorem get?_ofList_filterMap (h : (entries.map (·.1)).Nodup) (f : α → Option β)
    (key : String) :
    get? key (ofList (entries.filterMap fun e => (f e.2).map (e.1, ·))) =
      (get? key entries).bind f := by
  rw [get?_ofList_of_nodup ((fst_filterMap_sublist f entries).nodup h), get?_filterMap h]

end FilterMap

end Reconcile.Keyed
