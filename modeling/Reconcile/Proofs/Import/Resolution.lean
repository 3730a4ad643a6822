import Mathlib.Data.List.Forall2
import Reconcile.Proofs.Template.Matcher

namespace Reconcile.ImportId

variable {defaults fields : Fields} {names more patterns : List String} {name raw id : String}
  {t : Template} {templates : List Template} {s : Session}

theorem get?_fill (defaults fields : Fields) (names : List String) (name : String) :
    Keyed.get? name (fill defaults fields names) =
      (Keyed.get? name fields).or (if name ∈ names then Keyed.get? name defaults else none) := by
  induction names generalizing fields with
  | nil => simp [fill]
  | cons first rest ih =>
      rw [fill, ih]
      split
      · next value hsaid hdefault =>
          rw [Keyed.get?_insert]
          by_cases hname : first = name
          · subst hname
            simp [hsaid, hdefault]
          · simp [hname, Ne.symm hname]
      · next hkept =>
          by_cases hname : first = name
          · subst hname
            cases hsaid : Keyed.get? first fields with
            | some value => rfl
            | none =>
                cases hdefault : Keyed.get? first defaults with
                | some value => exact absurd hdefault (hkept value hsaid)
                | none => simp
          · simp [Ne.symm hname]

theorem ascending_fill (h : Keyed.Ascending fields) :
    Keyed.Ascending (fill defaults fields names) := by
  induction names generalizing fields with
  | nil => exact h
  | cons first rest ih =>
      rw [fill]
      split
      · exact ih h.insert
      · exact ih h

theorem fill_congr (h : Keyed.Ascending fields) (hnames : ∀ name, name ∈ names ↔ name ∈ more) :
    fill defaults fields names = fill defaults fields more := by
  apply (ascending_fill h).ext (ascending_fill h)
  intro name
  simp only [get?_fill, hnames]

theorem fill_of_said (h : Keyed.Ascending fields)
    (hsaid : ∀ name ∈ names, (Keyed.get? name fields).isSome) :
    fill defaults fields names = fields := by
  apply (ascending_fill h).ext h
  intro name
  rw [get?_fill]
  split
  · next hname =>
      obtain ⟨value, hvalue⟩ := Option.isSome_iff_exists.1 (hsaid name hname)
      rw [hvalue]
      rfl
  · exact Option.or_none

def StandsFor (raw : String) (t : Template) : Prop :=
  Pattern.compile? (anchored raw) = some t.compiled

instance (raw : String) (t : Template) : Decidable (StandsFor raw t) :=
  inferInstanceAs (Decidable (_ = _))

def Form.ofTemplate (raw : String) (t : Template) : Form := ⟨raw, t.compiled⟩

theorem form_of_standsFor (h : StandsFor raw t) : form raw = .ok (.ofTemplate raw t) := by
  rw [form, formWith, h]
  rfl

theorem mapM_form (h : List.Forall₂ StandsFor patterns templates) :
    patterns.mapM form = .ok (List.zipWith Form.ofTemplate patterns templates) := by
  induction h with
  | nil => rfl
  | cons hfirst _ ih =>
      rw [List.mapM_cons, form_of_standsFor hfirst, ih]
      rfl

theorem firstMatch?_zipWith (h : List.Forall₂ StandsFor patterns templates)
    (hvalid : ∀ t ∈ templates, t.Valid) (id : String) :
    (firstMatch? id (List.zipWith Form.ofTemplate patterns templates)).map (·.2) =
      templates.findSome? (·.parse id) := by
  induction h with
  | nil => rfl
  | @cons raw t patterns templates _ _ ih =>
      have hmatch : (Form.ofTemplate raw t).match? id = t.parse id :=
        Template.match?_compiled (hvalid t List.mem_cons_self) raw id
      rw [List.zipWith_cons_cons, firstMatch?, hmatch, List.findSome?_cons]
      cases t.parse id with
      | some fields => rfl
      | none => exact ih fun t ht => hvalid t (List.mem_cons_of_mem _ ht)

theorem names_zipWith (h : List.Forall₂ StandsFor patterns templates) :
    (List.zipWith Form.ofTemplate patterns templates).flatMap (·.compiled.names.map (·.1)) =
      templates.flatMap (·.names) := by
  induction h with
  | nil => rfl
  | @cons raw t patterns templates _ _ ih =>
      rw [List.zipWith_cons_cons, List.flatMap_cons, List.flatMap_cons, ih]
      rw [Form.ofTemplate, Template.compiled, List.zipIdx_map_fst]

theorem resolve_eq (h : List.Forall₂ StandsFor patterns templates)
    (hvalid : ∀ t ∈ templates, t.Valid) (id : String) (defaults : Fields) (s : Session) :
    (resolve id patterns defaults s).1 =
      match templates.findSome? (·.parse id) with
      | none => .error (.noPatternMatched id patterns)
      | some fields => .ok (fill defaults fields (templates.flatMap (·.names))) := by
  rw [resolve, resolveWith, mapM_form h, ← names_zipWith h, ← firstMatch?_zipWith h hvalid]
  dsimp only
  cases firstMatch? id (List.zipWith Form.ofTemplate patterns templates) with
  | none => rfl
  | some found => rfl

end Reconcile.ImportId
