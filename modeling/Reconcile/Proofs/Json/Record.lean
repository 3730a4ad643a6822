import Mathlib.Data.List.Induction
import Reconcile.Json.Decode
import Reconcile.Proofs.Except
import Reconcile.Proofs.Keyed

namespace Reconcile

def Json.part? (key : String) (place : Nat) : Json → Option Json
  | .obj members => Keyed.get? key members.reverse
  | .arr items => items[place]?
  | _ => none

variable {σ τ : Type}

def Field.Keeps (field : Field σ) (get : σ → τ) : Prop :=
  ∀ j s s', field.read j s = .ok s' → get s' = get s

def Field.Stores (field : Field σ) (get : σ → τ) (read : Json → Except Decode.Error τ) : Prop :=
  ∀ j s s', field.read j s = .ok s' → read j = .ok (get s')

section Map

variable {α : Type} {field : Field σ} {decode : Json → Except Decode.Error α} {set : α → σ → σ}

theorem Field.Keeps.of_map {get : σ → τ} (hread : ∀ j s, field.read j s = (decode j).map (set · s))
    (hset : ∀ v s, get (set v s) = get s) : field.Keeps get := by
  intro j s s' h
  rw [hread] at h
  obtain ⟨v, _, rfl⟩ := map_eq_ok_iff.1 h
  exact hset v s

theorem Field.Stores.of_map {get : σ → α} (hread : ∀ j s, field.read j s = (decode j).map (set · s))
    (hset : ∀ v s, get (set v s) = v) : field.Stores get decode := by
  intro j s s' h
  rw [hread] at h
  obtain ⟨v, hv, rfl⟩ := map_eq_ok_iff.1 h
  rw [hset, hv]

end Map

namespace Decode

variable {fields : List (Field σ)} {key : String} {place : Nat} {get : σ → τ}
  {read : Json → Except Error τ} {start s : σ}

/-- The field of this name, at this place, is the only one for that part of the record. -/
structure Owns (fields : List (Field σ)) (key : String) (place : Nat) (get : σ → τ)
    (read : Json → Except Error τ) : Prop where
  owner : ∃ field, fields[place]? = some field ∧ field.name = key ∧ field.Stores get read
  others : ∀ field ∈ fields.eraseIdx place, field.name ≠ key ∧ field.Keeps get

theorem Owns.member (h : Owns fields key place get read) {entry : String × Json} {s' : σ}
    (hread : member fields s entry = .ok s') :
    if entry.1 = key then read entry.2 = .ok (get s') else get s' = get s := by
  obtain ⟨owner, howner, hname, hstores⟩ := h.owner
  unfold Decode.member at hread
  split at hread
  · next field hfind =>
      have hfield : field.name = entry.1 := by simpa using List.find?_some hfind
      obtain ⟨i, hi⟩ := List.mem_iff_getElem?.1 (List.mem_of_find?_eq_some hfind)
      by_cases hplace : i = place
      · subst hplace
        rw [howner, Option.some.injEq] at hi
        subst hi
        rw [if_pos (hfield.symm.trans hname)]
        exact hstores _ _ _ hread
      · obtain ⟨hother, hkeeps⟩ := h.others field
          (List.mem_eraseIdx_iff_getElem?.2 ⟨i, hplace, hi⟩)
        rw [if_neg (hfield ▸ hother)]
        exact hkeeps _ _ _ hread
  · next hnone =>
      have hne : entry.1 ≠ key := by
        rintro rfl
        have howned := List.find?_eq_none.1 hnone owner (List.mem_of_getElem? howner)
        simp [hname] at howned
      rw [Except.ok.injEq] at hread
      rw [if_neg hne, hread]

theorem Owns.members (h : Owns fields key place get read) {entries : List (String × Json)}
    (hread : members fields start entries = .ok s) :
    ((Keyed.get? key entries.reverse).map read).getD (.ok (get start)) = .ok (get s) := by
  -- From the last member back: the last of this name decides.
  induction entries using List.reverseRecOn generalizing s with
  | nil =>
      cases hread
      rfl
  | append_singleton init entry ih =>
      rw [Decode.members, List.foldlM_append, bind_eq_ok_iff] at hread
      obtain ⟨before, hinit, hlast⟩ := hread
      rw [List.foldlM_cons, bind_eq_ok_iff] at hlast
      obtain ⟨after, hmember, hlast⟩ := hlast
      cases hlast
      have hentry := h.member hmember
      rw [List.reverse_append, List.reverse_singleton, List.singleton_append, Keyed.get?]
      split at hentry
      · next hkey => simpa [hkey] using hentry
      · next hkey => simpa [hkey, hentry] using ih hinit

theorem positions_of_keeps {items : List Json} (h : ∀ field ∈ fields, field.Keeps get)
    (hread : positions fields start items = .ok s) : get s = get start := by
  induction fields generalizing start items with
  | nil =>
      cases items <;> cases hread <;> rfl
  | cons field rest ih =>
      cases items with
      | nil =>
          cases hread
          rfl
      | cons item items =>
          obtain ⟨next, hfield, hrest⟩ := bind_eq_ok_iff.1 hread
          have hkept := h field List.mem_cons_self _ _ _ hfield
          rw [ih (fun other hother => h other (List.mem_cons_of_mem field hother)) hrest, hkept]

theorem Owns.positions (h : Owns fields key place get read) {items : List Json}
    (hread : positions fields start items = .ok s) :
    (items[place]?.map read).getD (.ok (get start)) = .ok (get s) := by
  induction fields generalizing start items place with
  | nil =>
      obtain ⟨owner, howner, _⟩ := h.owner
      cases howner
  | cons field rest ih =>
      cases items with
      | nil =>
          cases hread
          rfl
      | cons item items =>
          obtain ⟨next, hfield, hrest⟩ := bind_eq_ok_iff.1 hread
          cases place with
          | zero =>
              obtain ⟨owner, howner, _, hstores⟩ := h.owner
              rw [List.getElem?_cons_zero, Option.some.injEq] at howner
              subst howner
              have hkept : ∀ other ∈ rest, other.Keeps get :=
                fun other hother => (h.others other hother).2
              rw [List.getElem?_cons_zero, Option.map_some, Option.getD_some,
                positions_of_keeps hkept hrest]
              exact hstores _ _ _ hfield
          | succ place =>
              have hkept := (h.others field List.mem_cons_self).2 _ _ _ hfield
              rw [List.getElem?_cons_succ, ← hkept]
              exact ih ⟨h.owner, fun other hother =>
                h.others other (List.mem_cons_of_mem field hother)⟩ hrest

theorem Owns.record (h : Owns fields key place get read) {name : String} {j : Json}
    (hread : record name fields start j = .ok s) :
    ((j.part? key place).map read).getD (.ok (get start)) = .ok (get s) := by
  cases j with
  | obj entries => exact h.members hread
  | arr items =>
      obtain ⟨s', hitems, hrest⟩ := bind_eq_ok_iff.1 hread
      split at hrest
      · cases hrest
      · cases hrest
        exact h.positions hitems
  | _ => cases hread

end Decode

end Reconcile
