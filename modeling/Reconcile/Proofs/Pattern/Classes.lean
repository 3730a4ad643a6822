import Reconcile.Proofs.Pattern.Closing

namespace Reconcile.Pattern

variable {s rest : List Char} {flags : Flags} {x : Char}

def caret (s : List Char) : Bool × List Char :=
  match s with
  | '^' :: cs => (true, cs)
  | cs => (false, cs)

theorem caret_closing (s : List Char) :
    caret (s ++ closing) = ((caret s).1, (caret s).2 ++ closing) := by
  unfold caret
  split
  · next heq =>
    obtain ⟨cs, rfl, rfl⟩ := exists_of_cons_closing (by decide) heq
    rfl
  · next hnot =>
    split
    · exact absurd rfl (hnot _)
    · rfl

theorem bracketClass?_colon (cs : List Char) :
    bracketClass? (':' :: cs) =
      match (caret cs).2.span (· != ':') with
      | (name, ':' :: ']' :: rest) =>
          (asciiClass? (String.ofList name)).map fun s =>
            (if (caret cs).1 then .compl s else s, rest)
      | _ => none := rfl

theorem carries_bracketClass? : Carries bracketClass? bracketClass? := by
  intro s a rest h
  have hcolon : ∃ cs, s = ':' :: cs := by
    unfold bracketClass? at h
    split at h
    · exact ⟨_, rfl⟩
    · cases h
  obtain ⟨cs, rfl⟩ := hcolon
  rw [bracketClass?_colon] at h
  rw [List.cons_append, bracketClass?_colon, caret_closing]
  split at h
  · next hspan =>
    have hmore := span_closing hspan
    rw [List.cons_append] at hmore
    obtain ⟨cls, hcls, h⟩ := Option.map_eq_some_iff.1 h
    cases h
    simp only [hmore, hcls, Option.map_some]
  · cases h

theorem bracketClass?_closing_eq_none (h : bracketClass? s = none) :
    bracketClass? (s ++ closing) = none := by
  by_cases hcolon : ∃ cs, s = ':' :: cs
  · obtain ⟨cs, rfl⟩ := hcolon
    rw [bracketClass?_colon] at h
    rw [List.cons_append, bracketClass?_colon, caret_closing]
    dsimp only
    split
    · next name more hspan =>
      cases hleft : (caret cs).2.dropWhile (· != ':') with
      | nil =>
          rw [List.span_eq_takeWhile_dropWhile, List.dropWhile_append, hleft] at hspan
          cases hspan
      | cons x left =>
          have hshort : (caret cs).2.span (· != ':') =
              ((caret cs).2.takeWhile (· != ':'), x :: left) := by
            rw [List.span_eq_takeWhile_dropWhile, hleft]
          rw [span_closing hshort, Prod.mk.injEq, List.cons.injEq] at hspan
          obtain ⟨hname, rfl, hbracket⟩ := hspan
          obtain ⟨_, rfl, _⟩ := exists_of_cons_closing (by decide) hbracket
          rw [hname] at hshort
          simp only [hshort, Option.map_eq_none_iff] at h
          rw [h]
          rfl
    · rfl
  · unfold bracketClass?
    split
    · next heq => exact absurd heq (not_cons_closing (by decide) (fun cs hs => hcolon ⟨cs, hs⟩) _)
    · rfl

theorem carries_classChar? : Carries classChar? classChar? := by
  intro s a rest h
  unfold classChar? at h
  split at h
  · cases h
  · next cs => exact carries_escape? cs a rest h
  · next hc =>
    cases h
    rw [List.cons_append, classChar?]
    exact hc

theorem skipVerbose_closing (s : List Char) :
    (skipVerbose (s ++ closing) = skipVerbose s ++ closing ∨
      skipVerbose s = [] ∧ skipVerbose (s ++ closing) = []) ∧
    (skipVerbose.skipComment (s ++ closing) = skipVerbose.skipComment s ++ closing ∨
      skipVerbose.skipComment s = [] ∧ skipVerbose.skipComment (s ++ closing) = []) := by
  induction s with
  | nil => exact ⟨.inl (by decide), .inr (by decide)⟩
  | cons c cs ih =>
      obtain ⟨hverbose, hcomment⟩ := ih
      rw [List.cons_append, skipVerbose, skipVerbose, skipVerbose.skipComment,
        skipVerbose.skipComment]
      constructor
      · split
        · exact hverbose
        · split
          · exact hcomment
          · exact .inl rfl
      · split
        · exact hverbose
        · exact hcomment

def unblanked (flags : Flags) (s : List Char) : List Char :=
  if flags.verbose then skipVerbose s else s

theorem unblanked_closing (flags : Flags) (s : List Char) :
    unblanked flags (s ++ closing) = unblanked flags s ++ closing ∨
      unblanked flags s = [] ∧ unblanked flags (s ++ closing) = [] := by
  unfold unblanked
  split
  · exact (skipVerbose_closing s).1
  · exact .inl rfl

theorem unblanked_closing_of_ne_nil (h : unblanked flags s ≠ []) :
    unblanked flags (s ++ closing) = unblanked flags s ++ closing := by
  rcases unblanked_closing flags s with heq | ⟨hnil, _⟩
  · exact heq
  · exact absurd hnil h

theorem unblanked_nil (flags : Flags) : unblanked flags [] = [] := by
  unfold unblanked
  split <;> rfl

theorem classRange?_closing {cls : CharSet}
    (h : classRange? (unblanked flags) s = some (cls, rest)) (hrest : rest ≠ []) :
    classRange? (unblanked flags) (s ++ closing) = some (cls, rest ++ closing) := by
  unfold classRange? at h ⊢
  obtain ⟨⟨item, more⟩, hitem, h⟩ := Option.bind_eq_some_iff.1 h
  rw [carries_classChar? s item more hitem, Option.bind_eq_bind, Option.bind_some]
  dsimp only at h ⊢
  rcases unblanked_closing flags more with hmore | ⟨hnil, _⟩
  · rw [hmore]
    split at h
    · next range hrange =>
      simp only [hrange, List.cons_append]
      have hsome : unblanked flags range ≠ [] := by
        intro hnil
        rw [hnil] at h
        cases h
      have hhead : (unblanked flags range ++ closing).head? = (unblanked flags range).head? := by
        obtain ⟨c, cs, heq⟩ := List.exists_cons_of_ne_nil hsome
        rw [heq]
        rfl
      rw [unblanked_closing_of_ne_nil hsome, hhead]
      split at h
      · next hhyphen =>
        rw [if_pos hhyphen]
        obtain ⟨s, hs, h⟩ := Option.map_eq_some_iff.1 h
        cases h
        rw [hs]
        rfl
      · next hhyphen =>
        obtain ⟨⟨last, more'⟩, hlast, h⟩ := Option.bind_eq_some_iff.1 h
        rw [if_neg hhyphen, carries_classChar? _ last more' hlast, Option.bind_some]
        dsimp only at h ⊢
        split at h
        · split at h
          · next hle =>
            cases h
            exact if_pos hle
          · cases h
        · cases h
    · next hhyphen =>
      obtain ⟨s, hs, h⟩ := Option.map_eq_some_iff.1 h
      cases h
      split
      · next heq => exact absurd heq (not_cons_closing (by decide) hhyphen _)
      · rw [hs]
        rfl
  · rw [hnil] at h
    obtain ⟨s, hs, h⟩ := Option.map_eq_some_iff.1 h
    cases h
    exact absurd rfl hrest

def afterCaret (flags : Flags) (s : List Char) : Bool × List Char :=
  match unblanked flags s with
  | '^' :: cs => (true, unblanked flags cs)
  | cs => (false, cs)

def firstMembers (s : List Char) : CharSet × List Char :=
  let hyphens := s.takeWhile (· == '-')
  let s := s.drop hyphens.length
  let first : CharSet := if hyphens.isEmpty then .empty else .single '-'
  match hyphens, s with
  | [], ']' :: cs => (CharSet.single ']', cs)
  | _, s => (first, s)

theorem class?_succ (fuel : Nat) (flags : Flags) (s : List Char) :
    class? (fuel + 1) flags s =
      (classItems? fuel flags ⟨none, (firstMembers (afterCaret flags s).2).1⟩
        (firstMembers (afterCaret flags s).2).2).bind fun p =>
          some (if (afterCaret flags s).1 then .compl p.1 else p.1, p.2) := rfl

theorem afterCaret_closing (h : (afterCaret flags s).2 ≠ []) :
    afterCaret flags (s ++ closing) =
      ((afterCaret flags s).1, (afterCaret flags s).2 ++ closing) := by
  unfold afterCaret at h ⊢
  have hsome : unblanked flags s ≠ [] := by
    intro hnil
    rw [hnil] at h
    exact h rfl
  rw [unblanked_closing_of_ne_nil hsome]
  split at h
  · next hcaret =>
    simp only [hcaret, List.cons_append, unblanked_closing_of_ne_nil h]
  · next hcaret =>
    split
    · next heq => exact absurd heq (not_cons_closing (by decide) hcaret _)
    · rfl

theorem firstMembers_closing (h : (firstMembers s).2 ≠ []) :
    firstMembers (s ++ closing) = ((firstMembers s).1, (firstMembers s).2 ++ closing) := by
  unfold firstMembers at h ⊢
  have htaken := (List.takeWhile_prefix (· == '-') (l := s)).length_le
  dsimp only at h ⊢
  rw [takeWhile_closing (by decide), List.drop_append_of_le_length htaken]
  generalize s.takeWhile (· == '-') = hyphens at h ⊢
  generalize s.drop hyphens.length = more at h ⊢
  cases hyphens with
  | cons c cs => rfl
  | nil =>
      cases more with
      | nil => exact absurd rfl h
      | cons c cs =>
          rw [List.cons_append]
          by_cases hc : c = ']'
          · subst hc
            rfl
          · have hplain : ∀ more, (match ([] : List Char), c :: more with
                | [], ']' :: cs => (CharSet.single ']', cs)
                | _, s => (CharSet.empty, s)) = (.empty, c :: more) := by
              intro more
              split
              · next heq => exact absurd (List.cons.inj heq).1 hc
              · rfl
            simp only [List.isEmpty_nil, if_true, hplain]
            rfl

theorem classItems?_nil (fuel : Nat) (flags : Flags) (r : ClassReader) :
    classItems? fuel flags r [] = none := by
  cases fuel with
  | zero => rfl
  | succ fuel =>
      have hnil : (if flags.verbose = true then skipVerbose [] else []) = [] := unblanked_nil flags
      unfold classItems?
      simp only [hnil]

def bracketed? (fuel : Nat) (flags : Flags) (r : ClassReader) (s : List Char) :
    Option (CharSet × List Char) :=
  match bracketClass? s with
  | some (inner, rest) => classItems? fuel flags (r.add inner) rest
  | none => do
      let (inner, rest) ← class? fuel flags s
      classItems? fuel flags (r.add inner) rest

def ranged? (fuel : Nat) (flags : Flags) (r : ClassReader) (s : List Char) :
    Option (CharSet × List Char) :=
  (classRange? (unblanked flags) s).bind fun p => classItems? fuel flags (r.add p.1) p.2

theorem classItems?_succ (fuel : Nat) (flags : Flags) (r : ClassReader) (s : List Char) :
    classItems? (fuel + 1) flags r s =
      match unblanked flags s with
      | [] => none
      | ']' :: rest => some (r.result flags, rest)
      | '&' :: '&' :: rest => classItems? fuel flags (r.operator flags .inter) rest
      | '-' :: '-' :: rest => classItems? fuel flags (r.operator flags .minus) rest
      | '~' :: '~' :: rest => classItems? fuel flags (r.operator flags .differ) rest
      | '[' :: rest => bracketed? fuel flags r rest
      | s => ranged? fuel flags r s := rfl

theorem not_cons_cons_closing (hx : x ≠ ')') (h : ∀ cs, s ≠ x :: x :: cs)
    (cs : List Char) : s ++ closing ≠ x :: x :: cs := by
  intro heq
  match s, heq with
  | [], heq => exact hx (List.cons.inj heq).1.symm
  | [c], heq => exact hx (List.cons.inj (List.cons.inj heq).2).1.symm
  | c :: d :: rest, heq =>
      obtain ⟨rfl, heq⟩ := List.cons.inj heq
      obtain ⟨rfl, _⟩ := List.cons.inj heq
      exact h rest rfl

structure ClassExtends (fuel fuel' : Nat) : Prop where
  whole : ∀ flags, Carries (class? fuel flags) (class? fuel' flags)
  items : ∀ flags r, Carries (classItems? fuel flags r) (classItems? fuel' flags r)

namespace ClassExtends

variable {fuel fuel' : Nat}

theorem whole_succ (h : ClassExtends fuel fuel') (flags : Flags) :
    Carries (class? (fuel + 1) flags) (class? (fuel' + 1) flags) := by
  intro s cls rest hread
  rw [class?_succ] at hread ⊢
  obtain ⟨⟨inner, more⟩, hinner, hread⟩ := Option.bind_eq_some_iff.1 hread
  cases hread
  -- The items take a bracket at least, so no blanks before them reach the end of the text.
  have hfirst : (firstMembers (afterCaret flags s).2).2 ≠ [] := by
    intro hnil
    rw [hnil, classItems?_nil] at hinner
    cases hinner
  have hcaret : (afterCaret flags s).2 ≠ [] := by
    intro hnil
    rw [hnil] at hfirst
    exact hfirst rfl
  rw [afterCaret_closing hcaret]
  dsimp only
  rw [firstMembers_closing hfirst]
  dsimp only
  rw [h.items _ _ _ _ _ hinner]
  rfl

theorem bracket (h : ClassExtends fuel fuel') (flags : Flags) (r : ClassReader) :
    Carries (bracketed? fuel flags r) (bracketed? fuel' flags r) := by
  intro s cls rest hread
  unfold bracketed? at hread ⊢
  split at hread
  · next hbracket =>
    rw [carries_bracketClass? _ _ _ hbracket]
    exact h.items _ _ _ _ _ hread
  · next hbracket =>
    obtain ⟨⟨inner, more⟩, hinner, hread⟩ := Option.bind_eq_some_iff.1 hread
    rw [bracketClass?_closing_eq_none hbracket]
    dsimp only
    rw [h.whole _ _ _ _ hinner]
    exact h.items _ _ _ _ _ hread

theorem range (h : ClassExtends fuel fuel') (flags : Flags) (r : ClassReader) :
    Carries (ranged? fuel flags r) (ranged? fuel' flags r) := by
  intro s cls rest hread
  obtain ⟨⟨inner, more⟩, hinner, hread⟩ := Option.bind_eq_some_iff.1 hread
  have hmore : more ≠ [] := by
    rintro rfl
    rw [classItems?_nil] at hread
    cases hread
  rw [ranged?, classRange?_closing hinner hmore]
  exact h.items _ _ _ _ _ hread

theorem items_succ (h : ClassExtends fuel fuel') (flags : Flags) (r : ClassReader) :
    Carries (classItems? (fuel + 1) flags r) (classItems? (fuel' + 1) flags r) := by
  intro s cls rest hread
  rw [classItems?_succ] at hread ⊢
  have hsome : unblanked flags s ≠ [] := by
    intro hnil
    rw [hnil] at hread
    cases hread
  rw [unblanked_closing_of_ne_nil hsome]
  split at hread
  · cases hread
  · next heq =>
    cases hread
    rw [heq]
    rfl
  · next heq =>
    rw [heq]
    exact h.items _ _ _ _ _ hread
  · next heq =>
    rw [heq]
    exact h.items _ _ _ _ _ hread
  · next heq =>
    rw [heq]
    exact h.items _ _ _ _ _ hread
  · next heq =>
    rw [heq]
    exact h.bracket _ _ _ _ _ hread
  · next hbracket hinter hminus hdiffer hopen =>
    split
    · next heq => exact absurd heq (List.append_ne_nil_of_left_ne_nil hsome _)
    · next heq => exact absurd heq (not_cons_closing (by decide) hbracket _)
    · next heq => exact absurd heq (not_cons_cons_closing (by decide) hinter _)
    · next heq => exact absurd heq (not_cons_cons_closing (by decide) hminus _)
    · next heq => exact absurd heq (not_cons_cons_closing (by decide) hdiffer _)
    · next heq => exact absurd heq (not_cons_closing (by decide) hopen _)
    · exact h.range _ _ _ _ _ hread

end ClassExtends

theorem classExtends_of_le {fuel fuel' : Nat} (h : fuel ≤ fuel') : ClassExtends fuel fuel' := by
  induction fuel generalizing fuel' with
  | zero =>
      constructor
      · intro flags s cls rest hread
        rw [class?] at hread
        cases hread
      · intro flags r s cls rest hread
        rw [classItems?] at hread
        cases hread
  | succ fuel ih =>
      cases fuel' with
      | zero => exact absurd h (Nat.not_succ_le_zero fuel)
      | succ fuel' =>
          have hrest := ih (Nat.le_of_succ_le_succ h)
          exact ⟨hrest.whole_succ, hrest.items_succ⟩

end Reconcile.Pattern
