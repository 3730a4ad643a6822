import Reconcile.Proofs.Json.Record
import Reconcile.Settings

namespace Reconcile

namespace Json

inductive Tree.InRange : Tree → Prop
  | null : InRange .null
  | bool (b : Bool) : InRange (.bool b)
  | int {n : Int} : n ≤ maxSignificand → InRange (.int n)
  | float (x : Double) : InRange (.float x)
  | str (s : String) : InRange (.str s)
  | arr {items : List Tree} : (∀ t ∈ items, InRange t) → InRange (.arr items)
  | obj {members : List (String × Tree)} : (∀ m ∈ members, InRange m.2) → InRange (.obj members)

def Reads {α : Type} (P : α → Prop) (read : Option (α × List Char)) : Prop := ∀ p ∈ read, P p.1

namespace Reads

variable {α β : Type} {P : α → Prop} {Q : β → Prop} {rest : List Char}
  {o o' : Option (β × List Char)}

theorem none : Reads Q none := nofun

theorem some {b : β} (h : Q b) : Reads Q (some (b, rest)) := by
  intro p hp
  cases hp
  exact h

theorem bind {γ : Type} {o : Option γ} {next : γ → Option (β × List Char)}
    (h : ∀ c, Reads Q (next c)) : Reads Q (o >>= next) := by
  intro p hp
  obtain ⟨c, _, hp⟩ := Option.bind_eq_some_iff.1 hp
  exact h c p hp

theorem ite {c : Prop} [Decidable c] (h : c → Reads Q o) (h' : Reads Q o') :
    Reads Q (if c then o else o') := by
  split
  · next hc => exact h hc
  · exact h'

theorem map {o : Option (α × List Char)} (build : α → β) (ho : Reads P o)
    (h : ∀ a, P a → Q (build a)) : Reads Q (o.map fun p => (build p.1, p.2)) := by
  intro p hp
  obtain ⟨a, ha, rfl⟩ := Option.map_eq_some_iff.1 hp
  exact h a.1 (ho a ha)

theorem any {o : Option (α × List Char)} : Reads (fun _ => True) o := fun _ _ => trivial

end Reads

section Number

variable {rest : List Char} {o : Option (Tree × List Char)}

theorem reads_float (x : Option Double) :
    Reads Tree.InRange (x >>= fun x => pure (.float x, rest)) :=
  .bind fun x => .some (.float x)

theorem reads_integer {negative integral : Bool} {n : Nat} (h : Reads Tree.InRange o) :
    Reads Tree.InRange (if integral then
      if !negative && n ≤ maxSignificand then pure (.int n, rest)
      else if negative && 0 < n && n ≤ Nat.pow 2 63 then pure (.int (-n), rest) else o
    else o) := by
  refine .ite (fun _ => .ite (fun hn => .some (.int ?_)) (.ite (fun _ => .some (.int ?_)) h)) h
  · simp only [Bool.and_eq_true, decide_eq_true_eq] at hn
    exact Int.ofNat_le.2 hn.2
  · exact Int.le_trans (Int.neg_nonpos_of_nonneg (Int.natCast_nonneg n)) (by decide)

theorem reads_number (negative : Bool) (s : List Char) :
    Reads Tree.InRange (number? negative s) := by
  unfold number?
  refine .bind fun _ => .bind fun _ => .bind fun _ => ?_
  dsimp only
  -- With an exponent, without one, and at the end of the text.
  split
  · refine .ite (fun _ => .bind fun _ => .bind fun _ => reads_integer ?_)
      (.bind fun _ => reads_integer ?_)
    · exact .ite (fun _ => .ite (fun _ => reads_float _) (reads_float _)) (reads_float _)
    · exact .ite (fun _ => .ite (fun _ => reads_float _) (reads_float _)) (reads_float _)
  · refine .bind fun _ => reads_integer ?_
    exact .ite (fun _ => .ite (fun _ => reads_float _) (reads_float _)) (reads_float _)

end Number

theorem reads_literal {word : String} {t : Tree} (h : t.InRange) (s : List Char) :
    Reads Tree.InRange (literal? word t s) :=
  .ite (fun _ => .some h) .none

structure ReadsInRange (fuel : Nat) : Prop where
  value : ∀ depth s, Reads Tree.InRange (value? fuel depth s)
  items : ∀ depth s, Reads (fun items => ∀ t ∈ items, t.InRange) (items? fuel depth s)
  members : ∀ depth s, Reads (fun members => ∀ m ∈ members, m.2.InRange) (members? fuel depth s)

namespace ReadsInRange

variable {fuel : Nat}

theorem value_succ (h : ReadsInRange fuel) (depth : Nat) (s : List Char) :
    Reads Tree.InRange (value? (fuel + 1) depth s) := by
  unfold value?
  split
  · exact .map (fun cs => Tree.str (String.ofList cs)) .any fun cs _ => .str (String.ofList cs)
  · cases depth with
    | zero => exact .none
    | succ depth =>
        dsimp only
        split
        · exact .some (.arr nofun)
        · exact .map Tree.arr (h.items depth _) fun _ => .arr
  · cases depth with
    | zero => exact .none
    | succ depth =>
        dsimp only
        split
        · exact .some (.obj nofun)
        · exact .map Tree.obj (h.members depth _) fun _ => .obj
  · exact reads_literal (.bool true) _
  · exact reads_literal (.bool false) _
  · exact reads_literal .null _
  · exact reads_number true _
  · exact reads_number false _

theorem items_succ (h : ReadsInRange fuel) (depth : Nat) (s : List Char) :
    Reads (fun items => ∀ t ∈ items, t.InRange) (items? (fuel + 1) depth s) := by
  unfold items?
  split
  · exact .none
  · next t _ ht =>
    have hfirst : t.InRange := h.value depth s _ ht
    split
    · exact .map (t :: ·) (h.items depth _) fun _ hrest => List.forall_mem_cons.2 ⟨hfirst, hrest⟩
    · exact .some (List.forall_mem_singleton.2 hfirst)
    · exact .none

theorem members_succ (h : ReadsInRange fuel) (depth : Nat) (s : List Char) :
    Reads (fun members => ∀ m ∈ members, m.2.InRange) (members? (fuel + 1) depth s) := by
  unfold members?
  split
  · split
    · exact .none
    · split
      · split
        · exact .none
        · next t _ ht =>
          have hfirst : t.InRange := h.value depth _ _ ht
          dsimp only
          split
          · exact .map ((String.ofList _, t) :: ·) (h.members depth _) fun _ hrest =>
              List.forall_mem_cons.2 ⟨hfirst, hrest⟩
          · exact .some (List.forall_mem_singleton.2 hfirst)
          · exact .none
      · exact .none
  · exact .none

end ReadsInRange

theorem readsInRange (fuel : Nat) : ReadsInRange fuel := by
  induction fuel with
  | zero => exact ⟨fun _ _ => .none, fun _ _ => .none, fun _ _ => .none⟩
  | succ fuel ih => exact ⟨ih.value_succ, ih.items_succ, ih.members_succ⟩

theorem inRange_of_tree? {s : List Char} {t : Tree} (h : tree? s = some t) : t.InRange := by
  obtain ⟨p, hp, h⟩ := Option.bind_eq_some_iff.1 h
  obtain ⟨_, _, h⟩ := Option.bind_eq_some_iff.1 h
  cases h
  exact (readsInRange _).value _ _ p hp

theorem entries_eq (members : List (String × Tree)) :
    Tree.entries members = members.map fun m => (m.1, m.2.value) := by
  induction members with
  | nil => rfl
  | cons m rest ih => rw [Tree.entries, ih, List.map_cons]

theorem values_eq (items : List Tree) : Tree.values items = items.map Tree.value := by
  induction items with
  | nil => rfl
  | cons t rest ih => rw [Tree.values, ih, List.map_cons]

theorem Tree.InRange.le_of_part {t : Tree} {key : String} {place : Nat} {n : Int}
    (h : t.InRange) (hpart : t.value.part? key place = some (.int n)) : n ≤ maxSignificand := by
  have hint : ∀ {u : Tree}, u.InRange → u.value = .int n → n ≤ maxSignificand := by
    intro u hu heq
    cases hu with
    | int hle =>
        cases heq
        exact hle
    | _ => cases heq
  cases h with
  | arr hitems =>
      rw [Tree.value, values_eq] at hpart
      obtain ⟨u, hu, heq⟩ := List.mem_map.1 (List.mem_of_getElem? hpart)
      exact hint (hitems u hu) heq
  | obj hmembers =>
      rw [Tree.value, entries_eq] at hpart
      have hmem := Keyed.mem_ofList (List.mem_reverse.1 (Keyed.mem_of_get? hpart))
      obtain ⟨m, hm, heq⟩ := List.mem_map.1 hmem
      exact hint (hmembers m hm) (Prod.mk.inj heq).2
  | _ => cases hpart

end Json

theorem Decode.exists_int_of_optional_unsigned {j : Json} {n : Nat}
    (h : optional unsigned j = .ok (some n)) : j = .int n := by
  cases j with
  | int m =>
      have hread : (unsigned (.int m)).map some = .ok (some n) := h
      rw [unsigned] at hread
      split at hread
      · next hpos =>
          cases hread
          rw [Int.toNat_of_nonneg hpos]
      · cases hread
  | _ => cases h

namespace Settings

structure Number where
  key : String
  place : Nat
  get : Settings → Option Nat

def numbers : List Number :=
  [⟨"operation_timeout_secs", 4, (·.operationTimeoutSecs)⟩,
    ⟨"poll_interval_ms", 5, (·.pollIntervalMs)⟩]

def InRange (s : Settings) : Prop := ∀ number ∈ numbers, ∀ n ∈ number.get s, n ≤ Json.maxSignificand

theorem InRange.pause {s : Settings} (h : s.InRange) :
    ∀ n ∈ s.pollIntervalMs, n ≤ Json.maxSignificand :=
  h _ (List.mem_cons_of_mem _ (List.mem_singleton_self _))

theorem get_blank : ∀ number ∈ numbers, number.get blank = none := by
  simp only [numbers, List.forall_mem_cons]
  exact ⟨rfl, rfl, nofun⟩

theorem inRange_blank : blank.InRange := by
  intro number hnumber n hn
  rw [get_blank number hnumber] at hn
  cases hn

theorem owns_numbers : ∀ number ∈ numbers,
    Decode.Owns fields number.key number.place number.get (Decode.optional Decode.unsigned) := by
  simp only [numbers, List.forall_mem_cons]
  refine ⟨⟨⟨fields[4], rfl, rfl, .of_map (fun _ _ => rfl) fun _ _ => rfl⟩, ?_⟩,
    ⟨⟨fields[5], rfl, rfl, .of_map (fun _ _ => rfl) fun _ _ => rfl⟩, ?_⟩, nofun⟩ <;>
  · simp only [fields, List.eraseIdx_cons_succ, List.eraseIdx_cons_zero, List.forall_mem_cons]
    refine ⟨?_, ?_, ?_, ?_, ?_, nofun⟩ <;>
      exact ⟨by decide, .of_map (fun _ _ => rfl) fun _ _ => rfl⟩

theorem inRange_of_record {t : Json.Tree} {s : Settings} (ht : t.InRange)
    (h : Decode.record "Settings" fields blank t.value = .ok s) : s.InRange := by
  intro number hnumber n hn
  have hread := (owns_numbers number hnumber).record h
  rw [Option.mem_def.1 hn, get_blank number hnumber] at hread
  cases hpart : t.value.part? number.key number.place with
  | none =>
      rw [hpart] at hread
      cases hread
  | some j =>
      rw [hpart] at hread
      have hj := Decode.exists_int_of_optional_unsigned hread
      subst hj
      exact Int.ofNat_le.1 (ht.le_of_part hpart)

theorem inRange_of_ofText? {content : List Char} {s : Settings} (h : ofText? content = some s) :
    s.InRange := by
  unfold ofText? at h
  split at h
  · cases h
  · next t htree =>
    have ht := Json.inRange_of_tree? htree
    split at h
    · exact inRange_of_record ht (toOption_eq_some_iff.1 h)
    · cases h

theorem inRange_load (a : Ambient) : (load a).1.InRange := by
  unfold load
  split
  · unfold ofFile
    split
    · exact inRange_blank
    · exact inRange_blank
    · split
      · exact inRange_blank
      · split
        · exact inRange_blank
        · next h => exact inRange_of_ofText? h
  · exact inRange_blank

end Settings

end Reconcile
