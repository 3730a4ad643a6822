namespace Reconcile.Text

def splitOn (sep : Char) : List Char → List (List Char)
  | [] => [[]]
  | c :: cs =>
      if c = sep then [] :: splitOn sep cs
      else
        match splitOn sep cs with
        | [] => [[c]]
        | piece :: rest => (c :: piece) :: rest

theorem splitOn_ne_nil (sep : Char) (s : List Char) : splitOn sep s ≠ [] := by
  induction s with
  | nil => simp [splitOn]
  | cons c cs ih =>
      unfold splitOn
      split
      · simp
      · split <;> simp

theorem splitOn_of_not_mem {sep : Char} {s : List Char} (h : sep ∉ s) : splitOn sep s = [s] := by
  induction s with
  | nil => rfl
  | cons c cs ih =>
      have hc : c ≠ sep := fun e => h (by simp [e])
      have hcs : sep ∉ cs := fun m => h (List.mem_cons_of_mem _ m)
      simp [splitOn, hc, ih hcs]

theorem not_mem_of_mem_splitOn {sep : Char} {s piece : List Char} (h : piece ∈ splitOn sep s) :
    sep ∉ piece := by
  induction s generalizing piece with
  | nil => simp [splitOn] at h; simp [h]
  | cons c cs ih =>
      unfold splitOn at h
      split at h
      · rcases List.mem_cons.1 h with rfl | h
        · simp
        · exact ih h
      · next hc =>
        split at h
        · next he => exact absurd he (splitOn_ne_nil sep cs)
        · next first rest he =>
          rcases List.mem_cons.1 h with rfl | h
          · have := @ih first (by simp [he])
            simp [this, Ne.symm hc]
          · exact ih (by simp [he, h])

def join (sep : List Char) : List (List Char) → List Char
  | [] => []
  | [piece] => piece
  | piece :: rest => piece ++ sep ++ join sep rest

theorem join_splitOn (sep : Char) (s : List Char) : join [sep] (splitOn sep s) = s := by
  induction s with
  | nil => rfl
  | cons c cs ih =>
      unfold splitOn
      split
      · next hc =>
        subst hc
        cases he : splitOn c cs with
        | nil => exact absurd he (splitOn_ne_nil c cs)
        | cons p ps => rw [he] at ih; simp [join, ih]
      · cases he : splitOn sep cs with
        | nil => exact absurd he (splitOn_ne_nil sep cs)
        | cons p ps =>
            rw [he] at ih
            cases ps with
            | nil => simpa [join] using ih
            | cons p' ps => simpa [join] using ih

def after? (lead s : List Char) : Option (List Char) :=
  if lead.isPrefixOf s then some (s.drop lead.length) else none

theorem after?_append (lead s : List Char) : after? lead (lead ++ s) = some s := by
  simp [after?]

theorem eq_of_after? {lead s rest : List Char} (h : after? lead s = some rest) :
    s = lead ++ rest := by
  unfold after? at h
  split at h
  · next hp =>
    obtain ⟨t, rfl⟩ := List.isPrefixOf_iff_prefix.1 hp
    simp at h
    simp [h]
  · simp at h

def cut? (piece : List Char) : List Char → Option (List Char × List Char)
  | [] => if piece.isEmpty then some ([], []) else none
  | c :: cs =>
      match after? piece (c :: cs) with
      | some rest => some ([], rest)
      | none => (cut? piece cs).map fun p => (c :: p.1, p.2)

theorem eq_of_cut? {piece s before rest : List Char} (h : cut? piece s = some (before, rest)) :
    s = before ++ piece ++ rest := by
  induction s generalizing before with
  | nil =>
      unfold cut? at h
      split at h
      · next hp => simp at h hp; simp [h, hp]
      · simp at h
  | cons c cs ih =>
      unfold cut? at h
      split at h
      · next r hr => simp at h; obtain ⟨rfl, rfl⟩ := h; simpa using eq_of_after? hr
      · cases hc : cut? piece cs with
        | none => simp [hc] at h
        | some p =>
            obtain ⟨b, r⟩ := p
            simp [hc] at h
            obtain ⟨rfl, rfl⟩ := h
            simp [ih hc]

def dropEndWhile (p : Char → Bool) (s : List Char) : List Char :=
  (s.reverse.dropWhile p).reverse

def trim (p : Char → Bool) (s : List Char) : List Char :=
  dropEndWhile p (s.dropWhile p)

def contains (piece s : List Char) : Bool :=
  (cut? piece s).isSome

def cutLast? (sep : Char) (s : List Char) : Option (List Char × List Char) :=
  match (s.reverse.span (· != sep)) with
  | (_, []) => none
  | (tail, _ :: head) => some (head.reverse, tail.reverse)

def split (sep : Char) (s : String) : List String :=
  (splitOn sep s.toList).map String.ofList

def replaceAll (old new : List Char) (s : List Char) : List Char :=
  if old.isEmpty then s else go s.length s
where
  go : Nat → List Char → List Char
    | 0, s => s
    | fuel + 1, s =>
        match cut? old s with
        | none => s
        | some (before, rest) => before ++ new ++ go fuel rest

end Reconcile.Text
