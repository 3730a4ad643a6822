import Mathlib.Data.Option.Basic
import Reconcile.Proofs.Pattern.Classes
import Reconcile.Proofs.Pattern.Search

namespace Reconcile.Pattern

def Reader.closed (r : Reader) : Reader := r.at (r.rest ++ closing)

def Reader.Follows (r r' : Reader) : Prop := r' = r.closed ∨ r.rest = [] ∧ r' = r

def Reader.Carries {α : Type} (read read' : Reader → Option (α × Reader)) : Prop :=
  ∀ r a t, read r = some (a, t) → read' r.closed = some (a, t.closed)

/-- The same but for a comment at the end. -/
def Reader.Leads {α : Type} (read read' : Reader → Option (α × Reader)) : Prop :=
  ∀ r a t, read r = some (a, t) → ∃ t', read' r.closed = some (a, t') ∧ t.Follows t'

theorem Reader.skip_eq (r : Reader) : r.skip = r.at (unblanked r.flags r.rest) := by
  unfold skip unblanked
  split <;> rfl

theorem Reader.follows_skip (r : Reader) : r.skip.Follows r.closed.skip := by
  rw [skip_eq, skip_eq]
  rcases unblanked_closing r.flags r.rest with heq | ⟨hnil, heq⟩
  · exact .inl (congrArg r.at heq)
  · exact .inr ⟨hnil, congrArg r.at (heq.trans hnil.symm)⟩

def operator? (s : List Char) : Option ((Nat × Option Nat) × List Char) :=
  match s with
  | '*' :: cs => some ((0, none), cs)
  | '+' :: cs => some ((1, none), cs)
  | '?' :: cs => some ((0, some 1), cs)
  | _ => none

theorem operator?_closing (s : List Char) :
    operator? (s ++ closing) = (operator? s).map fun p => (p.1, p.2 ++ closing) := by
  unfold operator?
  split
  · next heq =>
    obtain ⟨cs, rfl, rfl⟩ := exists_of_cons_closing (by decide) heq
    rfl
  · next heq =>
    obtain ⟨cs, rfl, rfl⟩ := exists_of_cons_closing (by decide) heq
    rfl
  · next heq =>
    obtain ⟨cs, rfl, rfl⟩ := exists_of_cons_closing (by decide) heq
    rfl
  · next hstar hplus hquestion =>
    split
    · exact (hstar _ rfl).elim
    · exact (hplus _ rfl).elim
    · exact (hquestion _ rfl).elim
    · rfl

def opensBraces (s : List Char) : Bool := s.head? == some '\x7b'

theorem opensBraces_closing (s : List Char) : opensBraces (s ++ closing) = opensBraces s := by
  rw [Bool.eq_iff_iff, opensBraces, opensBraces, beq_iff_eq, beq_iff_eq]
  exact head?_closing (by decide)

def repetition? (s : List Char) : Option ((Nat × Option Nat) × List Char) :=
  if opensBraces s then bounds? (s.drop 1) else operator? s

theorem carries_repetition? : Carries repetition? repetition? := by
  intro s b rest h
  unfold repetition? at h ⊢
  rw [opensBraces_closing]
  split at h
  · next hopen =>
    rw [if_pos hopen]
    obtain ⟨cs, rfl⟩ := List.head?_eq_some_iff.1 (beq_iff_eq.1 hopen)
    exact carries_bounds? _ _ _ h
  · next hopen => rw [if_neg hopen, operator?_closing, h, Option.map_some]

def mark (s : List Char) : Bool × List Char :=
  match s with
  | '?' :: cs => (true, cs)
  | cs => (false, cs)

theorem mark_closing (s : List Char) :
    mark (s ++ closing) = ((mark s).1, (mark s).2 ++ closing) := by
  unfold mark
  split
  · next heq =>
    obtain ⟨cs, rfl, rfl⟩ := exists_of_cons_closing (by decide) heq
    rfl
  · next hnot =>
    split
    · exact absurd rfl (hnot _)
    · rfl

theorem suffixes?_succ (item : Option Pattern) (fuel : Nat) (r : Reader) :
    suffixes? item (fuel + 1) r =
      if (operator? r.skip.rest).isNone && !opensBraces r.skip.rest then
        some (item.getD .empty, r.skip)
      else
        match item with
        | none => none
        | some p =>
            (repetition? r.skip.rest).bind fun b =>
              suffixes? (some (.many b.1.1 b.1.2 ((mark b.2).1 == r.skip.flags.swapGreed) p)) fuel
                (r.skip.at (mark b.2).2) := by
  cases item with
  | none => rfl
  | some p =>
      rw [suffixes?]
      dsimp only
      generalize r.skip = q
      unfold repetition? opensBraces
      cases hb : q.rest.head? == some '\x7b' with
      | true =>
          simp only [if_true]
          rfl
      | false =>
          simp only [Bool.false_eq_true, if_false]
          rfl

theorem leads_suffixes? {item : Option Pattern} {fuel fuel' : Nat} (hfuel : fuel ≤ fuel') :
    Reader.Leads (suffixes? item fuel) (suffixes? item fuel') := by
  intro r p t h
  induction fuel generalizing fuel' item r with
  | zero => cases h
  | succ fuel ih =>
      cases fuel' with
      | zero => exact absurd hfuel (Nat.not_succ_le_zero fuel)
      | succ fuel' =>
      rw [suffixes?_succ] at h ⊢
      rcases r.follows_skip with heq | ⟨hnil, heq⟩
      · rw [heq]
        simp only [Reader.closed, Reader.at, operator?_closing, opensBraces_closing,
          Option.isNone_map]
        split at h
        · next hnone =>
          cases h
          exact ⟨_, if_pos hnone, .inl rfl⟩
        · next hsome =>
          rw [if_neg hsome]
          cases item with
          | none => cases h
          | some q =>
              obtain ⟨b, hb, h⟩ := Option.bind_eq_some_iff.1 h
              dsimp only
              rw [carries_repetition? _ _ _ hb, Option.bind_some]
              dsimp only
              rw [mark_closing]
              exact ih (Nat.le_of_succ_le_succ hfuel) _ h
      · rw [hnil] at h
        simp only [heq, hnil]
        cases h
        exact ⟨_, rfl, .inr ⟨hnil, rfl⟩⟩

section Items

variable {s : List Char} {fuel fuel' : Nat} {r t : Reader} {p : Pattern} {item : Option Pattern}

theorem nameMark?_closing (s : List Char) :
    nameMark? (s ++ closing) = (nameMark? s).map (· ++ closing) := by
  unfold nameMark?
  split
  · next heq =>
    obtain ⟨cs, rfl, hmore⟩ := exists_of_cons_closing (by decide) heq
    obtain ⟨more, rfl, rfl⟩ := exists_of_cons_closing (by decide) hmore.symm
    rfl
  · next heq =>
    obtain ⟨cs, rfl, rfl⟩ := exists_of_cons_closing (by decide) heq
    rfl
  · next hlong hshort =>
    split
    · exact (hlong _ rfl).elim
    · exact (hshort _ rfl).elim
    · rfl

/-- The readers of items and of what they are in do alike with more behind the text. An item and a
group end in a character of their own, so that no comment runs on from there. -/
structure Extends (fuel fuel' : Nat) : Prop where
  alternatives : Reader.Leads (alternatives? fuel) (alternatives? fuel')
  sequence : Reader.Leads (sequence? fuel) (sequence? fuel')
  item : Reader.Carries (item? fuel) (item? fuel')
  enclosed : Reader.Carries (enclosed? fuel) (enclosed? fuel')

def atEnd (s : List Char) : Bool :=
  match s with
  | [] => true
  | '|' :: _ => true
  | ')' :: _ => true
  | _ => false

theorem atEnd_cons (c : Char) (cs : List Char) : atEnd (c :: cs) = (c == '|' || c == ')') := by
  unfold atEnd
  split <;> simp_all

theorem atEnd_closing (s : List Char) : atEnd (s ++ closing) = atEnd s := by
  cases s with
  | nil => rfl
  | cons c cs => rw [List.cons_append, atEnd_cons, atEnd_cons]

theorem sequence?_succ (fuel : Nat) (r : Reader) :
    sequence? (fuel + 1) r =
      if atEnd r.skip.rest then some (.empty, r.skip)
      else (item? fuel r.skip).bind fun a =>
        (suffixes? a.1 (a.2.rest.length + 1) a.2).bind fun b =>
          (sequence? fuel b.2).bind fun d =>
            some (if d.1 = .empty then b.1 else .seq b.1 d.1, d.2) := by
  rw [sequence?]
  dsimp only
  split
  · next hrest =>
    rw [hrest]
    rfl
  · next hrest =>
    rw [hrest]
    rfl
  · next hrest =>
    rw [hrest]
    rfl
  · next hempty hbar hclose =>
    have hmore : atEnd r.skip.rest = false := by
      cases hrest : r.skip.rest with
      | nil => exact (hempty hrest).elim
      | cons c cs =>
          rw [atEnd_cons, Bool.or_eq_false_iff, beq_eq_false_iff_ne, beq_eq_false_iff_ne]
          exact ⟨fun hc => hbar cs (hc ▸ hrest), fun hc => hclose cs (hc ▸ hrest)⟩
    rw [hmore]
    rfl

theorem sequence?_of_nil (h : r.rest = []) : sequence? (fuel + 1) r = some (.empty, r) := by
  have hskip : r.skip = r := by
    rw [Reader.skip_eq, h, unblanked_nil, ← h]
    rfl
  rw [sequence?_succ, hskip, h]
  rfl

theorem Extends.alternatives_succ (h : Extends fuel fuel') :
    Reader.Leads (alternatives? (fuel + 1)) (alternatives? (fuel' + 1)) := by
  intro r p t hread
  rw [alternatives?] at hread ⊢
  obtain ⟨⟨q, u⟩, hq, hread⟩ := Option.bind_eq_some_iff.1 hread
  obtain ⟨u', hu', hfollows⟩ := h.sequence _ _ _ hq
  rw [hu', Option.bind_eq_bind, Option.bind_some]
  dsimp only at hread ⊢
  rcases hfollows with rfl | ⟨hnil, rfl⟩
  · split at hread
    · next hbar =>
      obtain ⟨⟨q', v⟩, hq', hread⟩ := Option.bind_eq_some_iff.1 hread
      cases hread
      obtain ⟨v', hv', hfollows⟩ := h.alternatives _ _ _ hq'
      simp only [Reader.closed, Reader.at, hbar, List.cons_append] at hv' ⊢
      rw [hv']
      exact ⟨v', rfl, hfollows⟩
    · next hbar =>
      cases hread
      refine ⟨_, ?_, .inl rfl⟩
      split
      · next heq => exact absurd heq (not_cons_closing (by decide) hbar _)
      · rfl
  · simp only [hnil] at hread ⊢
    cases hread
    exact ⟨_, rfl, .inr ⟨hnil, rfl⟩⟩

theorem Extends.enclosed_succ (h : Extends fuel fuel') :
    Reader.Carries (enclosed? (fuel + 1)) (enclosed? (fuel' + 1)) := by
  intro r p t hread
  rw [enclosed?] at hread ⊢
  obtain ⟨⟨q, u⟩, hq, hread⟩ := Option.bind_eq_some_iff.1 hread
  obtain ⟨u', hu', hfollows⟩ := h.alternatives _ _ _ hq
  rw [hu', Option.bind_eq_bind, Option.bind_some]
  dsimp only at hread ⊢
  split at hread
  · next hclose =>
    cases hread
    rcases hfollows with rfl | ⟨hnil, _⟩
    · simp only [Reader.closed, Reader.at, hclose, List.cons_append]
      rfl
    · rw [hnil] at hclose
      cases hclose
  · cases hread

theorem Extends.sequence_succ (h : Extends fuel fuel') :
    Reader.Leads (sequence? (fuel + 1)) (sequence? (fuel' + 1)) := by
  intro r p t hread
  rw [sequence?_succ] at hread ⊢
  rcases r.follows_skip with heq | ⟨hnil, heq⟩
  · rw [heq]
    generalize r.skip = q at hread ⊢
    have hend : atEnd q.closed.rest = atEnd q.rest := atEnd_closing q.rest
    rw [hend]
    split at hread
    · next hstop =>
      cases hread
      exact ⟨_, if_pos hstop, .inl rfl⟩
    · next hmore =>
      rw [if_neg hmore]
      obtain ⟨⟨item, u⟩, hitem, hread⟩ := Option.bind_eq_some_iff.1 hread
      obtain ⟨⟨p', v⟩, hp', hread⟩ := Option.bind_eq_some_iff.1 hread
      obtain ⟨⟨q', w⟩, hq', hread⟩ := Option.bind_eq_some_iff.1 hread
      have hle : u.rest.length + 1 ≤ u.closed.rest.length + 1 := by
        rw [Reader.closed, Reader.at, List.length_append]
        lia
      obtain ⟨v', hv', hfollows⟩ := leads_suffixes? hle _ _ _ hp'
      obtain ⟨w', hw', hfollows'⟩ := h.sequence _ _ _ hq'
      rw [h.item _ _ _ hitem, Option.bind_some, hv', Option.bind_some]
      dsimp only
      rcases hfollows with rfl | ⟨hnil, rfl⟩
      · rw [hw']
        cases hread
        exact ⟨w', rfl, hfollows'⟩
      · -- The blanks after the item took in what stands behind, so nothing more is read of either.
        cases fuel with
        | zero => cases hq'
        | succ fuel =>
            cases fuel' with
            | zero => cases hw'
            | succ fuel' =>
                rw [sequence?_of_nil hnil] at hq' ⊢
                cases hq'
                cases hread
                exact ⟨_, rfl, .inr ⟨hnil, rfl⟩⟩
  · rw [hnil] at hread
    rw [heq, hnil]
    cases hread
    exact ⟨_, rfl, .inr ⟨hnil, rfl⟩⟩

def namedGroup? (fuel : Nat) (r : Reader) (more : List Char) :
    Option (Option Pattern × Reader) := do
  let (name, rest) ← groupName? more
  guard (!(r.names.any (·.1 == name)))
  let index := r.groups + 1
  let (p, s) ← enclosed? fuel { r with rest, groups := index, names := r.names ++ [(name, index)] }
  pure (some (.group index p), { s with flags := r.flags })

def flagGroup? (fuel : Nat) (r : Reader) (cs : List Char) : Option (Option Pattern × Reader) := do
  guard (cs.head? != some ')')
  let (flags, rest) ← flags? [] r.flags cs
  match rest with
  | ')' :: rest => pure (none, { r with rest, flags })
  | _ :: rest => do
      let (p, s) ← enclosed? fuel { r with rest, flags }
      pure (some p, { s with flags := r.flags })
  | [] => none

theorem item?_question {cs : List Char} (hrest : r.rest = '(' :: '?' :: cs) :
    item? (fuel + 1) r =
      match nameMark? cs with
      | some more => namedGroup? fuel r more
      | none => flagGroup? fuel r cs := by
  rw [item?]
  simp only [hrest]
  rfl

theorem Extends.namedGroup (h : Extends fuel fuel') {more : List Char}
    (hread : namedGroup? fuel r more = some (item, t)) :
    namedGroup? fuel' r.closed (more ++ closing) = some (item, t.closed) := by
  unfold namedGroup? at hread ⊢
  obtain ⟨⟨name, rest⟩, hname, hread⟩ := Option.bind_eq_some_iff.1 hread
  obtain ⟨_, hnew, hread⟩ := Option.bind_eq_some_iff.1 hread
  obtain ⟨⟨p, u⟩, hp, hread⟩ := Option.bind_eq_some_iff.1 hread
  cases hread
  exact Option.bind_eq_some_iff.2 ⟨_, carries_groupName? _ _ _ hname,
    Option.bind_eq_some_iff.2 ⟨(), hnew, Option.bind_eq_some_iff.2 ⟨_, h.enclosed _ _ _ hp, rfl⟩⟩⟩

theorem Extends.flagGroup (h : Extends fuel fuel') {cs : List Char}
    (hread : flagGroup? fuel r cs = some (item, t)) :
    flagGroup? fuel' r.closed (cs ++ closing) = some (item, t.closed) := by
  unfold flagGroup? at hread ⊢
  obtain ⟨_, hopen, hread⟩ := Option.bind_eq_some_iff.1 hread
  obtain ⟨⟨flags, rest⟩, hflags, hread⟩ := Option.bind_eq_some_iff.1 hread
  have hmore := carries_flags? [] r.flags _ _ _ hflags
  have hhead : (cs ++ closing).head? = cs.head? := by
    cases cs with
    | nil => cases hflags
    | cons c cs => rfl
  rw [← hhead] at hopen
  refine Option.bind_eq_some_iff.2 ⟨(), hopen, Option.bind_eq_some_iff.2 ⟨_, hmore, ?_⟩⟩
  dsimp only at hread ⊢
  split at hread
  · cases hread
    rfl
  · next c rest hclose =>
    obtain ⟨⟨p, u⟩, hp, hread⟩ := Option.bind_eq_some_iff.1 hread
    cases hread
    rw [List.cons_append]
    split
    · next heq => exact (hclose (List.cons.inj heq).1).elim
    · next heq =>
      rw [← (List.cons.inj heq).2]
      exact Option.bind_eq_some_iff.2 ⟨_, h.enclosed _ _ _ hp, rfl⟩
    · next heq => cases heq
  · cases hread

theorem carries_plainItem? (flags : Flags) : Carries (plainItem? flags) (plainItem? flags) := by
  intro s p rest h
  unfold plainItem? at h
  split at h
  · cases h
  · next cs =>
    obtain ⟨⟨cls, more⟩, hcls, h⟩ := Option.map_eq_some_iff.1 h
    cases h
    have hle : 2 * cs.length + 2 ≤ 2 * (cs ++ closing).length + 2 := by
      rw [List.length_append]
      lia
    exact Option.map_eq_some_iff.2 ⟨_, (classExtends_of_le hle).whole _ _ _ _ hcls, rfl⟩
  · cases h
    rfl
  · cases h
    rfl
  · cases h
    rfl
  · next cs =>
    obtain ⟨⟨e, more⟩, he, h⟩ := Option.map_eq_some_iff.1 h
    cases h
    exact Option.map_eq_some_iff.2 ⟨_, carries_escape? _ _ _ he, rfl⟩
  · next hclass hdot hstart hend hescape =>
    rw [List.cons_append]
    unfold plainItem?
    split at h
    · cases h
    · next hplain =>
      cases h
      simp only [hplain]
      rfl

def numberedGroup? (fuel : Nat) (r : Reader) (cs : List Char) :
    Option (Option Pattern × Reader) :=
  (enclosed? fuel { r with rest := cs, groups := r.groups + 1 }).bind fun q =>
    some (some (.group (r.groups + 1) q.1), { q.2 with flags := r.flags })

theorem item?_group {cs : List Char} (hrest : r.rest = '(' :: cs)
    (hplain : ∀ more, cs ≠ '?' :: more) :
    item? (fuel + 1) r = numberedGroup? fuel r cs := by
  rw [item?]
  split
  · next heq => exact absurd (List.cons.inj (hrest.symm.trans heq)).2 (hplain _)
  · next heq =>
    obtain ⟨_, rfl⟩ := List.cons.inj (hrest.symm.trans heq)
    rfl
  · next hgroup => exact (hgroup _ hrest).elim

theorem item?_plain (hplain : ∀ cs, r.rest ≠ '(' :: cs) :
    item? (fuel + 1) r = (plainItem? r.flags r.rest).map fun p => (some p.1, r.at p.2) := by
  rw [item?]
  split
  · next heq => exact absurd heq (hplain _)
  · next heq => exact absurd heq (hplain _)
  · rfl

theorem Extends.numberedGroup (h : Extends fuel fuel') {cs : List Char}
    (hread : numberedGroup? fuel r cs = some (item, t)) :
    numberedGroup? fuel' r.closed (cs ++ closing) = some (item, t.closed) := by
  obtain ⟨⟨q, u⟩, hq, hread⟩ := Option.bind_eq_some_iff.1 hread
  cases hread
  exact Option.bind_eq_some_iff.2 ⟨_, h.enclosed _ _ _ hq, rfl⟩

theorem Extends.item_succ (h : Extends fuel fuel') :
    Reader.Carries (item? (fuel + 1)) (item? (fuel' + 1)) := by
  intro r item t hread
  have hclosed : r.closed.rest = r.rest ++ closing := rfl
  by_cases hgroup : ∃ cs, r.rest = '(' :: cs
  · obtain ⟨cs, hrest⟩ := hgroup
    rw [hrest, List.cons_append] at hclosed
    by_cases hquestion : ∃ more, cs = '?' :: more
    · obtain ⟨more, rfl⟩ := hquestion
      rw [List.cons_append] at hclosed
      rw [item?_question hrest] at hread
      rw [item?_question hclosed, nameMark?_closing]
      cases hmark : nameMark? more with
      | some name =>
          rw [hmark] at hread
          exact h.namedGroup hread
      | none =>
          rw [hmark] at hread
          exact h.flagGroup hread
    · have hplain := fun more heq => hquestion ⟨more, heq⟩
      rw [item?_group hrest hplain] at hread
      rw [item?_group hclosed (not_cons_closing (by decide) hplain)]
      exact h.numberedGroup hread
  · have hplain := fun cs heq => hgroup ⟨cs, heq⟩
    rw [item?_plain hplain] at hread
    rw [item?_plain (hclosed ▸ not_cons_closing (by decide) hplain)]
    obtain ⟨⟨p, more⟩, hp, hread⟩ := Option.map_eq_some_iff.1 hread
    cases hread
    rw [hclosed]
    exact Option.map_eq_some_iff.2 ⟨_, carries_plainItem? _ _ _ _ hp, rfl⟩

theorem extends_of_le (h : fuel ≤ fuel') : Extends fuel fuel' := by
  induction fuel generalizing fuel' with
  | zero =>
      constructor <;> intro _ _ _ h <;>
        simp only [alternatives?, sequence?, item?, enclosed?, reduceCtorEq] at h
  | succ fuel ih =>
      cases fuel' with
      | zero => exact absurd h (Nat.not_succ_le_zero fuel)
      | succ fuel' =>
          have hrest := ih (Nat.le_of_succ_le_succ h)
          exact ⟨hrest.alternatives_succ, hrest.sequence_succ, hrest.item_succ,
            hrest.enclosed_succ⟩

end Items

section Anchored

variable {p : Pattern} {t u : Reader} {fuel : Nat} {s : List Char}

def Reader.start (s : List Char) : Reader := ⟨s, Flags.none, 0, []⟩

theorem Reader.closed_start (s : List Char) : (start s).closed = start (s ++ closing) := rfl

theorem item?_open (s : List Char) :
    item? (fuel + 2) (.start ('(' :: '?' :: ':' :: s)) =
      (enclosed? (fuel + 1) (.start s)).bind fun q =>
        some (some q.1, { q.2 with flags := Flags.none }) := rfl

theorem sequence?_open (s : List Char) :
    sequence? (fuel + 3) (.start ('(' :: '?' :: ':' :: s)) =
      (item? (fuel + 2) (.start ('(' :: '?' :: ':' :: s))).bind fun a =>
        (suffixes? a.1 (a.2.rest.length + 1) a.2).bind fun b =>
          (sequence? (fuel + 2) b.2).bind fun d =>
            some (if d.1 = .empty then b.1 else .seq b.1 d.1, d.2) := rfl

theorem sequence?_caret (s : List Char) :
    sequence? (fuel + 4) (.start ('^' :: '(' :: '?' :: ':' :: s)) =
      (sequence? (fuel + 3) (.start ('(' :: '?' :: ':' :: s))).bind fun d =>
        some (if d.1 = .empty then .anchor .textStart else .seq (.anchor .textStart) d.1, d.2) :=
  rfl

theorem alternatives?_succ (fuel : Nat) (r : Reader) :
    alternatives? (fuel + 1) r = (sequence? fuel r).bind fun d =>
      match d.2.rest with
      | '|' :: cs => (alternatives? fuel (d.2.at cs)).bind fun q => some (.alt d.1 q.1, q.2)
      | _ => some (d.1, d.2) := rfl

theorem enclosed?_succ (fuel : Nat) (r : Reader) :
    enclosed? (fuel + 1) r = (alternatives? fuel r).bind fun d =>
      match d.2.rest with
      | ')' :: cs => some (d.1, d.2.at cs)
      | _ => none := rfl

def between (s : List Char) : List Char := '^' :: '(' :: '?' :: ':' :: (s ++ closing)

theorem alternatives?_between_eq_none
    (h : alternatives? fuel (.start (s ++ closing)) = some (p, t)) (ht : t.rest = []) :
    alternatives? (fuel + 5) (.start (between s)) = none := by
  have henclosed : enclosed? (fuel + 1) (.start (s ++ closing)) = none := by
    rw [enclosed?_succ, h, Option.bind_some, ht]
  rw [between, alternatives?_succ, sequence?_caret, sequence?_open, item?_open, henclosed]
  rfl

theorem alternatives?_between (h : alternatives? fuel (.start (s ++ closing)) = some (p, t))
    (ht : t.rest = closing) :
    alternatives? (fuel + 5) (.start (between s)) =
      some (anchored p, ⟨[], Flags.none, t.groups, t.names⟩) := by
  have henclosed : enclosed? (fuel + 1) (.start (s ++ closing)) = some (p, t.at ['$']) := by
    rw [enclosed?_succ, h, Option.bind_some, ht]
    rfl
  rw [between, alternatives?_succ, sequence?_caret, sequence?_open, item?_open, henclosed]
  rfl

end Anchored

theorem toList_anchored (raw : String) :
    ("^(?:" ++ raw ++ ")$").toList = between raw.toList := by
  have hopen : "^(?:".toList = ['^', '(', '?', ':'] := rfl
  have hclose : ")$".toList = closing := rfl
  rw [String.toList_append, String.toList_append, hopen, hclose]
  rfl

theorem compile?_eq_some_iff {raw : String} {c : Compiled} :
    compile? raw = some c ↔ ∃ r,
      alternatives? (4 * raw.toList.length + 4) (.start raw.toList) = some (c.pattern, r) ∧
      r.rest = [] ∧ c.pattern.size ≤ largest ∧ r.names = c.names := by
  constructor
  · intro h
    obtain ⟨⟨p, r⟩, hread, h⟩ := Option.bind_eq_some_iff.1 h
    obtain ⟨_, hguard, h⟩ := Option.bind_eq_some_iff.1 h
    cases h
    have hend : (r.rest.isEmpty && decide (p.size ≤ largest)) = true := by
      apply Classical.byContradiction
      intro hnot
      rw [guard, if_neg hnot] at hguard
      cases hguard
    rw [Bool.and_eq_true, List.isEmpty_iff, decide_eq_true_eq] at hend
    exact ⟨r, hread, hend.1, hend.2, rfl⟩
  · rintro ⟨r, hread, hrest, hsize, hnames⟩
    have hend : (r.rest.isEmpty && decide (c.pattern.size ≤ largest)) = true := by
      rw [Bool.and_eq_true, List.isEmpty_iff, decide_eq_true_eq]
      exact ⟨hrest, hsize⟩
    refine Option.bind_eq_some_iff.2 ⟨_, hread, Option.bind_eq_some_iff.2 ⟨(), if_pos hend, ?_⟩⟩
    rw [hnames]
    rfl

theorem compile?_anchored {raw : String} {c c' : Compiled} (h : compile? raw = some c)
    (h' : compile? ("^(?:" ++ raw ++ ")$") = some c') : c' = ⟨anchored c.pattern, c.names⟩ := by
  obtain ⟨r, hread, hrest, _, hnames⟩ := compile?_eq_some_iff.1 h
  obtain ⟨u, hread', _, _, hnames'⟩ := compile?_eq_some_iff.1 h'
  have hfuel : 4 * ("^(?:" ++ raw ++ ")$").toList.length + 4 =
      (4 * raw.toList.length + 23) + 5 := by
    rw [toList_anchored, between]
    simp only [List.length_cons, List.length_append]
    rfl
  rw [hfuel, toList_anchored] at hread'
  have hle : 4 * raw.toList.length + 4 ≤ 4 * raw.toList.length + 23 := by lia
  obtain ⟨t, ht, hfollows⟩ := (extends_of_le hle).alternatives _ _ _ hread
  rw [Reader.closed_start] at ht
  have hclosing : t.rest = closing ∧ t.names = r.names := by
    rcases hfollows with rfl | ⟨_, rfl⟩
    · rw [Reader.closed, Reader.at, hrest]
      exact ⟨rfl, rfl⟩
    · rw [alternatives?_between_eq_none ht hrest] at hread'
      cases hread'
  have hanchored := alternatives?_between ht hclosing.1
  rw [hread', Option.some.injEq, Prod.mk.injEq] at hanchored
  obtain ⟨hpattern, rfl⟩ := hanchored
  obtain ⟨pattern, names⟩ := c'
  dsimp only at hpattern hnames'
  rw [hpattern, ← hnames', hclosing.2, hnames]

example :
    (compile? "(?x)(?P<name>[^/]+) # the name").isSome = true ∧
      compile? ("^(?:" ++ "(?x)(?P<name>[^/]+) # the name" ++ ")$") = none := by
  decide +kernel

end Reconcile.Pattern
