import Mathlib.Data.List.Basic
import Reconcile.Pattern.Basic

namespace Reconcile.Pattern

variable {c d : Cursor} {s : CharSet} {p : Pattern} {text : List Char} {seen : List Nat}

def Cursor.advance (c : Cursor) (n : Nat) : Cursor :=
  { c with
    pos := c.pos + n
    previous := (c.rest.take n).getLast?.or c.previous
    rest := c.rest.drop n }

theorem Cursor.advance_zero (c : Cursor) : c.advance 0 = c := by
  simp [advance]

theorem Cursor.advance_add (c : Cursor) (m n : Nat) :
    c.advance (m + n) = (c.advance m).advance n := by
  simp [advance, Nat.add_assoc, List.take_add, List.getLast?_append, Option.or_assoc]

theorem ends_set_cons {x : Char} {rest : List Char} (hrest : c.rest = x :: rest) :
    (set s).ends c = if s.mem x then [c.advance 1] else [] := by
  simp only [ends, hrest, Cursor.advance, List.take_succ_cons, List.take_zero,
    List.getLast?_singleton, Option.some_or, List.drop_succ_cons, List.drop_zero]

theorem ends_set_nil (hrest : c.rest = []) : (set s).ends c = [] := by
  simp only [ends, hrest]

def Cursor.reach (c : Cursor) (s : CharSet) : Nat := (c.rest.takeWhile s.mem).length

theorem Cursor.reach_nil (hrest : c.rest = []) : c.reach s = 0 := by
  simp [reach, hrest]

theorem Cursor.reach_cons {x : Char} {rest : List Char} (hrest : c.rest = x :: rest) :
    c.reach s = if s.mem x then (c.advance 1).reach s + 1 else 0 := by
  simp only [reach, advance, hrest, List.takeWhile_cons, List.drop_succ_cons, List.drop_zero]
  split <;> rfl

def Cursor.stops (c : Cursor) (s : CharSet) : List Cursor :=
  ((List.range (c.reach s + 1)).map c.advance).reverse

theorem Cursor.stops_of_mem {x : Char} {rest : List Char} (hrest : c.rest = x :: rest)
    (hx : s.mem x = true) : c.stops s = (c.advance 1).stops s ++ [c] := by
  have hnext : (c.advance ∘ Nat.succ) = (c.advance 1).advance := by
    funext n
    rw [Function.comp_apply, Nat.succ_eq_one_add, advance_add]
  simp only [stops, reach_cons hrest, hx, if_true]
  rw [List.range_succ_eq_map (n := _ + 1), List.map_cons, List.map_map, hnext, List.reverse_cons,
    advance_zero]

theorem Cursor.stops_of_reach (h : c.reach s = 0) : c.stops s = [c] := by
  simp [stops, h, advance_zero]

theorem not_seen (hseen : ∀ pos ∈ seen, pos < c.pos) : seen.contains c.pos = false := by
  rw [List.contains_eq_any_beq, List.any_eq_false]
  intro pos hpos
  have hlt := hseen pos hpos
  simp only [beq_iff_eq]
  omega

theorem onward_set {fuel : Nat} (hfuel : c.rest.length ≤ fuel)
    (hseen : ∀ pos ∈ seen, pos < c.pos) :
    onward (set s).ends true fuel seen c = c.stops s := by
  induction fuel generalizing c seen with
  | zero =>
      have hrest := List.eq_nil_of_length_eq_zero (Nat.le_zero.1 hfuel)
      rw [Cursor.stops_of_reach (Cursor.reach_nil hrest), onward, not_seen hseen]
      rfl
  | succ fuel ih =>
      rw [onward, not_seen hseen]
      cases hrest : c.rest with
      | nil =>
          rw [ends_set_nil hrest, Cursor.stops_of_reach (Cursor.reach_nil hrest)]
          rfl
      | cons x rest =>
          by_cases hx : s.mem x = true
          · have hnext : (c.advance 1).rest = rest := by simp [Cursor.advance, hrest]
            have hfurther : ((set s).ends c).filter (·.rest.length < (x :: rest).length) =
                [c.advance 1] := by
              rw [ends_set_cons hrest, if_pos hx, List.filter_singleton, hnext]
              simp
            have hlater : ∀ pos ∈ c.pos :: seen, pos < (c.advance 1).pos := by
              intro pos hpos
              rcases List.mem_cons.1 hpos with rfl | hpos
              · exact Nat.lt_succ_self _
              · exact Nat.lt_succ_of_lt (hseen pos hpos)
            have hshort : (c.advance 1).rest.length ≤ fuel := by
              rw [hrest] at hfuel
              rw [hnext]
              exact Nat.le_of_succ_le_succ hfuel
            simp only [hfurther, sweep, List.append_nil, if_true, Bool.false_eq_true, if_false]
            rw [ih hshort hlater, Cursor.stops_of_mem hrest hx]
          · have hreach : c.reach s = 0 := by rw [Cursor.reach_cons hrest, if_neg hx]
            rw [Cursor.stops_of_reach hreach, ends_set_cons hrest, if_neg hx]
            rfl

theorem ends_atLeastOnce (p : Pattern) (c : Cursor) :
    (many 1 none true p).ends c = atLeastOnce p.ends true c := by
  simp [ends, repeated, exactly]

theorem ends_run (c : Cursor) (s : CharSet) :
    (many 1 none true (set s)).ends c =
      ((List.range (c.reach s)).map fun n => c.advance (n + 1)).reverse := by
  rw [ends_atLeastOnce, atLeastOnce]
  cases hrest : c.rest with
  | nil =>
      rw [ends_set_nil hrest, Cursor.reach_nil hrest]
      rfl
  | cons x rest =>
      rw [ends_set_cons hrest, Cursor.reach_cons hrest]
      split
      · have hshort : (c.advance 1).rest.length < (x :: rest).length := by
          simp [Cursor.advance, hrest]
        have hrun : onward (set s).ends true (c.advance 1).rest.length [] (c.advance 1) =
            (c.advance 1).stops s := onward_set (Nat.le_refl _) nofun
        have hnext : (fun n => c.advance (n + 1)) = (c.advance 1).advance := by
          funext n
          rw [Nat.add_comm, Cursor.advance_add]
        simp only [sweep, if_pos hshort, hrun, List.append_nil, Cursor.stops, hnext]
      · rfl

theorem ends_textStart (c : Cursor) :
    (anchor .textStart).ends c = if c.previous.isNone then [c] else [] := rfl

theorem ends_textEnd (c : Cursor) :
    (anchor .textEnd).ends c = if c.rest.isEmpty then [c] else [] := rfl

def anchored (p : Pattern) : Pattern := .seq (.anchor .textStart) (.seq p (.anchor .textEnd))

theorem head?_ends_anchored (p : Pattern) (c : Cursor) :
    ((anchored p).ends c).head? =
      if c.previous.isNone then (p.ends c).find? (·.rest.isEmpty) else none := by
  have hlast : ∀ ds : List Cursor, (ds.flatMap (anchor .textEnd).ends).head? =
      ds.find? (·.rest.isEmpty) := by
    intro ds
    induction ds with
    | nil => rfl
    | cons d ds ih =>
        rw [List.flatMap_cons, ends_textEnd, List.find?_cons]
        cases d.rest.isEmpty with
        | true => rfl
        | false => exact ih
  rw [anchored, ends, ends_textStart]
  split
  · rw [List.flatMap_singleton, ends, hlast]
  · rfl

theorem searchFrom_of_previous (p : Pattern) {x : Char} {pos : Nat} (rest : List Char) :
    searchFrom (anchored p) pos (some x) rest = none := by
  induction rest generalizing pos x with
  | nil =>
      rw [searchFrom, head?_ends_anchored]
      rfl
  | cons y rest ih =>
      rw [searchFrom, head?_ends_anchored, ih]
      rfl

theorem search_anchored (p : Pattern) (text : List Char) :
    search (anchored p) text = (p.ends (.start text)).find? (·.rest.isEmpty) := by
  cases text with
  | nil =>
      rw [search, searchFrom, head?_ends_anchored]
      rfl
  | cons x rest =>
      have hhead := head?_ends_anchored p (.start (x :: rest))
      simp only [Cursor.start, Option.isNone_none, if_true] at hhead ⊢
      rw [← hhead, search, searchFrom, searchFrom_of_previous]
      split
      · next hfound => rw [hfound]
      · next hnone => rw [hnone]

end Reconcile.Pattern
