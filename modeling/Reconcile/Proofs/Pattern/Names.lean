import Mathlib.Data.List.Nodup
import Reconcile.Proofs.Pattern.Enclosed

namespace Reconcile.Pattern

variable {fuel : Nat} {r t : Reader} {p : Pattern} {item : Option Pattern} {cs : List Char}

def Reader.Distinct (r : Reader) : Prop := (r.names.map (·.1)).Nodup

theorem names_of_suffixes? (h : suffixes? item fuel r = some (p, t)) : t.names = r.names := by
  induction fuel generalizing item r with
  | zero => cases h
  | succ fuel ih =>
      rw [suffixes?_succ, Reader.skip_eq] at h
      split at h
      · cases h
        rfl
      · cases item with
        | none => cases h
        | some q =>
            obtain ⟨b, _, h⟩ := Option.bind_eq_some_iff.1 h
            exact (ih h).trans rfl

def Reader.Distinguishes {α : Type} (read : Reader → Option (α × Reader)) : Prop :=
  ∀ r a t, read r = some (a, t) → r.Distinct → t.Distinct

structure KeepsNames (fuel : Nat) : Prop where
  alternatives : Reader.Distinguishes (alternatives? fuel)
  sequence : Reader.Distinguishes (sequence? fuel)
  item : Reader.Distinguishes (item? fuel)
  enclosed : Reader.Distinguishes (enclosed? fuel)

namespace KeepsNames

theorem alternatives_succ (h : KeepsNames fuel) :
    Reader.Distinguishes (alternatives? (fuel + 1)) := by
  intro r p t hread hr
  rw [alternatives?_succ] at hread
  obtain ⟨⟨q, u⟩, hq, hread⟩ := Option.bind_eq_some_iff.1 hread
  have hu := h.sequence _ _ _ hq hr
  dsimp only at hread
  split at hread
  · obtain ⟨⟨q', v⟩, hq', hread⟩ := Option.bind_eq_some_iff.1 hread
    cases hread
    exact h.alternatives _ _ _ hq' hu
  · cases hread
    exact hu

theorem sequence_succ (h : KeepsNames fuel) : Reader.Distinguishes (sequence? (fuel + 1)) := by
  intro r p t hread hr
  rw [sequence?_succ, Reader.skip_eq] at hread
  split at hread
  · cases hread
    exact hr
  · obtain ⟨⟨item, u⟩, hitem, hread⟩ := Option.bind_eq_some_iff.1 hread
    obtain ⟨⟨p', v⟩, hp', hread⟩ := Option.bind_eq_some_iff.1 hread
    obtain ⟨⟨q', w⟩, hq', hread⟩ := Option.bind_eq_some_iff.1 hread
    cases hread
    have hu : u.Distinct := h.item _ _ _ hitem hr
    have hv : v.Distinct := by
      rw [Reader.Distinct, names_of_suffixes? hp']
      exact hu
    exact h.sequence _ _ _ hq' hv

theorem enclosed_succ (h : KeepsNames fuel) : Reader.Distinguishes (enclosed? (fuel + 1)) := by
  intro r p t hread hr
  rw [enclosed?_succ] at hread
  obtain ⟨⟨q, u⟩, hq, hread⟩ := Option.bind_eq_some_iff.1 hread
  have hu := h.alternatives _ _ _ hq hr
  dsimp only at hread
  split at hread
  · cases hread
    exact hu
  · cases hread

theorem namedGroup (h : KeepsNames fuel) (hread : namedGroup? fuel r cs = some (item, t))
    (hr : r.Distinct) : t.Distinct := by
  obtain ⟨⟨name, rest⟩, _, hread⟩ := Option.bind_eq_some_iff.1 hread
  obtain ⟨_, hnew, hread⟩ := Option.bind_eq_some_iff.1 hread
  obtain ⟨⟨q, u⟩, hq, hread⟩ := Option.bind_eq_some_iff.1 hread
  cases hread
  have hfresh : name ∉ r.names.map (·.1) := by
    intro hmem
    obtain ⟨e, he, rfl⟩ := List.mem_map.1 hmem
    have hany : r.names.any (·.1 == e.1) = true := List.any_eq_true.2 ⟨e, he, beq_self_eq_true _⟩
    rw [hany] at hnew
    cases hnew
  have hnames : ((r.names ++ [(name, r.groups + 1)]).map (·.1)).Nodup := by
    rw [List.map_append]
    exact List.Nodup.append hr (List.nodup_singleton _) (List.disjoint_singleton.2 hfresh)
  have hu : u.Distinct := h.enclosed _ _ _ hq hnames
  exact hu

theorem flagGroup (h : KeepsNames fuel) (hread : flagGroup? fuel r cs = some (item, t))
    (hr : r.Distinct) : t.Distinct := by
  obtain ⟨_, _, hread⟩ := Option.bind_eq_some_iff.1 hread
  obtain ⟨⟨flags, rest⟩, _, hread⟩ := Option.bind_eq_some_iff.1 hread
  dsimp only at hread
  split at hread
  · cases hread
    exact hr
  · obtain ⟨⟨q, u⟩, hq, hread⟩ := Option.bind_eq_some_iff.1 hread
    cases hread
    have hu : u.Distinct := h.enclosed _ _ _ hq hr
    exact hu
  · cases hread

theorem item_succ (h : KeepsNames fuel) : Reader.Distinguishes (item? (fuel + 1)) := by
  intro r item t hread hr
  rw [item?] at hread
  split at hread
  · next cs hrest =>
    split at hread
    · exact h.namedGroup hread hr
    · exact h.flagGroup hread hr
  · obtain ⟨⟨q, u⟩, hq, hread⟩ := Option.bind_eq_some_iff.1 hread
    cases hread
    have hu : u.Distinct := h.enclosed _ _ _ hq hr
    exact hu
  · obtain ⟨⟨p, rest⟩, _, hread⟩ := Option.map_eq_some_iff.1 hread
    cases hread
    exact hr

end KeepsNames

theorem keepsNames (fuel : Nat) : KeepsNames fuel := by
  induction fuel with
  | zero =>
      constructor <;> intro _ _ _ h <;>
        simp only [alternatives?, sequence?, item?, enclosed?, reduceCtorEq] at h
  | succ fuel ih =>
      exact ⟨ih.alternatives_succ, ih.sequence_succ, ih.item_succ, ih.enclosed_succ⟩

theorem nodup_names {raw : String} {c : Compiled} (h : compile? raw = some c) :
    (c.names.map (·.1)).Nodup := by
  obtain ⟨r, hread, _, _, hnames⟩ := compile?_eq_some_iff.1 h
  rw [← hnames]
  exact (keepsNames _).alternatives _ _ _ hread List.nodup_nil

end Reconcile.Pattern
