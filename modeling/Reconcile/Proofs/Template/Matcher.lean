import Reconcile.ImportId
import Reconcile.Proofs.Pattern.Search
import Reconcile.Proofs.Template.Spelling

namespace Reconcile

namespace Pattern

variable {c : Cursor} {text : List Char}

def andThen (p q : Pattern) : Pattern := if q = .empty then p else .seq p q

theorem ends_andThen (p q : Pattern) (c : Cursor) :
    (p.andThen q).ends c = (p.ends c).flatMap q.ends := by
  unfold andThen
  split
  · next hq => simp [hq, ends]
  · rfl

def Cursor.groups (c : Cursor) (text : List Char) : List (Nat × List Char) :=
  c.captures.map fun g => (g.index, (text.drop g.start).take g.length)

theorem Cursor.captured?_eq (c : Cursor) (text : List Char) (index : Nat) :
    c.captured? text index = (c.groups text).lookup index := by
  unfold captured? groups
  induction c.captures with
  | nil => rfl
  | cons g rest ih =>
      rw [List.find?_cons, List.map_cons, List.lookup_cons, BEq.comm (a := index)]
      split
      · rfl
      · exact ih

def spelled (text : List Char) (rest : Pattern) : Pattern :=
  text.foldr (fun x p => (set (.single x)).andThen p) rest

theorem ends_spelled (text : List Char) (rest : Pattern) (c : Cursor) :
    (spelled text rest).ends c =
      if text.isPrefixOf c.rest then rest.ends (c.advance text.length) else [] := by
  induction text generalizing c with
  | nil => simp [spelled, Cursor.advance_zero]
  | cons x xs ih =>
      have htail : (spelled (x :: xs) rest).ends c =
          ((set (.single x)).ends c).flatMap (spelled xs rest).ends := ends_andThen _ _ c
      rw [htail]
      cases hrest : c.rest with
      | nil =>
          rw [ends_set_nil hrest]
          rfl
      | cons y more =>
          have hnext : (c.advance 1).rest = more := by simp [Cursor.advance, hrest]
          by_cases hx : x = y
          · rw [ends_set_cons hrest, if_pos (CharSet.mem_single.2 hx.symm), List.flatMap_singleton,
              ih, hnext, ← Cursor.advance_add, Nat.add_comm, List.length_cons]
            simp [List.isPrefixOf, hx]
          · rw [ends_set_cons hrest, if_neg fun h => hx (CharSet.mem_single.1 h).symm]
            simp [List.isPrefixOf, hx]

def segment : Pattern := .many 1 none true (.set (.compl (.union .empty (.single '/'))))

theorem ends_segment (c : Cursor) :
    segment.ends c = ((List.range (c.rest.takeWhile (· != '/')).length).map
      fun n => c.advance (n + 1)).reverse := by
  have hmem : (CharSet.compl (.union .empty (.single '/'))).mem = (· != '/') := by
    funext x
    rw [Bool.eq_iff_iff]
    simp [CharSet.mem, ← CharSet.mem_single]
  rw [segment, ends_run, Cursor.reach, hmem]

def Cursor.capture (c : Cursor) (index n : Nat) : Cursor :=
  { c.advance n with captures := ⟨index, c.pos, n⟩ :: c.captures }

theorem ends_group_segment (index : Nat) (c : Cursor) :
    (group index segment).ends c = ((List.range (c.rest.takeWhile (· != '/')).length).map
      fun n => c.capture index (n + 1)).reverse := by
  rw [ends, ends_segment, List.map_reverse, List.map_map]
  congr 2
  funext n
  simp [Cursor.capture, Cursor.advance]

theorem Cursor.groups_capture (index n : Nat) (hrest : c.rest = text.drop c.pos) :
    (c.capture index n).groups text = (index, c.rest.take n) :: c.groups text := by
  simp [groups, capture, advance, hrest]

end Pattern

namespace Template

variable {segments rest : List Segment} {values : Fields} {s text : List Char} {c : Pattern.Cursor}

def pattern (groups : Nat) : List Segment → Pattern
  | [] => .empty
  | .literal text :: rest => .spelled text (pattern groups rest)
  | .field _ :: rest => (Pattern.group (groups + 1) .segment).andThen (pattern (groups + 1) rest)

def numbered (first : Nat) (values : Fields) : List (Nat × List Char) :=
  (values.zipIdx first).map fun (e, index) => (index, e.2.toList)

theorem longest_eq_findSome? (next : List Char → Option Fields) (name : String) (s : List Char)
    (most : Nat) :
    longest next name s most = (List.range most).reverse.findSome? fun n =>
      (next (s.drop (n + 1))).map ((name, String.ofList (s.take (n + 1))) :: ·) := by
  induction most with
  | zero => rfl
  | succ most ih =>
      rw [longest, List.range_succ, List.reverse_append, List.reverse_singleton,
        List.singleton_append, List.findSome?_cons, ← ih]
      cases next (s.drop (most + 1)) with
      | none => rfl
      | some fields => rfl

theorem find?_ends_pattern (segments : List Segment) (text : List Char) (groups : Nat)
    (hrest : c.rest = text.drop c.pos) :
    (((pattern groups segments).ends c).find? (·.rest.isEmpty)).map (·.groups text) =
      (parseSegments segments c.rest).map fun values =>
        (numbered (groups + 1) values).reverse ++ c.groups text := by
  induction segments generalizing groups c with
  | nil =>
      cases h : c.rest.isEmpty <;> simp [pattern, Pattern.ends, parseSegments, h, numbered]
  | cons segment rest ih =>
      cases segment with
      | literal lead =>
          rw [pattern, Pattern.ends_spelled, parseSegments, Text.after?]
          split
          · have hnext : (c.advance lead.length).rest = text.drop (c.advance lead.length).pos := by
              simp [Pattern.Cursor.advance, hrest, List.drop_drop]
            exact ih groups hnext
          · rfl
      | field name =>
          rw [pattern, Pattern.ends_andThen, Pattern.ends_group_segment, List.find?_flatMap,
            List.map_findSome?, ← List.map_reverse, List.findSome?_map, parseSegments,
            longest_eq_findSome?, List.map_findSome?]
          congr 1
          funext n
          have hnext : (c.capture (groups + 1) (n + 1)).rest =
              text.drop (c.capture (groups + 1) (n + 1)).pos := by
            simp [Pattern.Cursor.capture, Pattern.Cursor.advance, hrest, List.drop_drop]
          simp only [Function.comp_apply, ih (groups + 1) hnext, Option.map_map,
            Pattern.Cursor.groups_capture _ _ hrest]
          congr 1
          funext values
          simp [numbered]

theorem lookup_numbered {first index : Nat} {e : String × String}
    (h : (e, index) ∈ values.zipIdx first) :
    (numbered first values).reverse.lookup index = some e.2.toList := by
  have hkeys : ((numbered first values).reverse.map (·.1)).Nodup := by
    have hnumbers : (numbered first values).map (·.1) = List.range' first values.length := by
      rw [numbered, List.map_map, ← List.zipIdx_map_snd]
      rfl
    rw [List.map_reverse, hnumbers]
    exact List.pairwise_reverse.2 (List.Pairwise.imp Ne.symm List.nodup_range')
  have hmem : (index, e.2.toList) ∈ (numbered first values).reverse :=
    List.mem_reverse.2 (List.mem_map_of_mem (f := fun p => (p.2, p.1.2.toList)) h)
  obtain ⟨before, after, hsplit⟩ := List.append_of_mem hmem
  rw [hsplit] at hkeys ⊢
  refine List.lookup_eq_some_iff.2 ⟨before, after, rfl, ?_⟩
  intro p hp
  rw [List.map_append, List.nodup_append] at hkeys
  exact bne_iff_ne.2 (Ne.symm (hkeys.2.2 _ (List.mem_map_of_mem hp) _ (by simp)))

def named (names : List String) (groups : List (Nat × List Char)) : Fields :=
  (names.zipIdx 1).filterMap fun (name, index) =>
    (groups.lookup index).map fun text => (name, String.ofList text)

theorem named_numbered (values : Fields) :
    named (values.map (·.1)) (numbered 1 values).reverse = values := by
  rw [named, List.zipIdx_map, List.filterMap_map]
  have hback : ∀ p ∈ values.zipIdx 1, (((numbered 1 values).reverse.lookup p.2).map
      fun text => (p.1.1, String.ofList text)) = some p.1 := by
    intro p hp
    rw [lookup_numbered hp, Option.map_some, String.ofList_toList]
  calc
    _ = (values.zipIdx 1).filterMap fun p => some p.1 := List.filterMap_congr hback
    _ = values := by rw [List.filterMap_eq_map', List.zipIdx_map_fst]

def compiled (t : Template) : Pattern.Compiled :=
  ⟨.anchored (pattern 0 t.segments), t.names.zipIdx 1⟩

theorem match?_compiled {t : Template} (hvalid : t.Valid) (raw id : String) :
    (ImportId.Form.mk raw t.compiled).match? id = t.parse id := by
  have hparse : t.parse id = (parseSegments t.segments id.toList).map Keyed.ofList :=
    if_pos hvalid
  have hgroups : (((pattern 0 t.segments).ends (.start id.toList)).find? (·.rest.isEmpty)).map
      (·.groups id.toList) = (parseSegments t.segments id.toList).map fun values =>
        (numbered 1 values).reverse ++ [] :=
    find?_ends_pattern t.segments id.toList 0 rfl
  have hmatch : (ImportId.Form.mk raw t.compiled).match? id =
      ((((pattern 0 t.segments).ends (.start id.toList)).find? (·.rest.isEmpty)).map
        (·.groups id.toList)).map fun groups => Keyed.ofList (named t.names groups) := by
    rw [ImportId.Form.match?, compiled, Pattern.search_anchored, Option.map_map]
    simp only [Pattern.Cursor.captured?_eq]
    rfl
  rw [hmatch, hgroups, hparse, Option.map_map]
  apply Option.map_congr
  intro values hvalues
  rw [Function.comp_apply, List.append_nil, ← (parseSegments_sound hvalues).1.names,
    named_numbered]

end Template

end Reconcile
