import Reconcile.Proofs.Import.Resolution
import Reconcile.Proofs.Pattern.Names

namespace Reconcile

namespace Pattern

def whole? (p : Pattern) (text : List Char) : Option Cursor :=
  (p.ends (.start text)).find? (·.rest.isEmpty)

theorem whole?_alt (p q : Pattern) (text : List Char) :
    (alt p q).whole? text = (p.whole? text).or (q.whole? text) := by
  rw [whole?, ends, List.find?_append]
  rfl

namespace Compiled

def captured? (c : Compiled) (text : List Char) (found : Cursor) (name : String) :
    Option String :=
  (Keyed.get? name c.names).bind fun index => (found.captured? text index).map String.ofList

def Mentions (c : Compiled) (name : String) : Prop := name ∈ c.names.map (·.1)

theorem mentions_of_captured? {c : Compiled} {text : List Char} {found : Cursor}
    {name value : String} (h : c.captured? text found name = some value) : c.Mentions name := by
  obtain ⟨index, hindex, _⟩ := Option.bind_eq_some_iff.1 h
  exact List.mem_map.2 ⟨_, Keyed.mem_of_get? hindex, rfl⟩

end Compiled

/-- What an engine is known to keep, whatever else it reads and however it bounds what it reads:
the first mark is the beginning of the text, then comes a group without an index, and the last mark
is the end of the text; and no two groups of a pattern have one name. -/
structure Engine.Standard (engine : Engine) : Prop where
  marks : ∀ {raw : String} {alone marked : Compiled}, engine raw = some alone →
    engine ("^(?:" ++ raw ++ ")$") = some marked →
    marked = ⟨.seq (.anchor .textStart) (.seq alone.pattern (.anchor .textEnd)), alone.names⟩
  names : ∀ {raw : String} {c : Compiled}, engine raw = some c → (c.names.map (·.1)).Nodup

theorem standard_compile? : Engine.Standard compile? where
  marks := compile?_anchored
  names := nodup_names

end Pattern

namespace ImportId

variable {engine : Pattern.Engine} {patterns : List String} {forms : List Form} {f : Form}
  {id name : String} {defaults fields : Fields} {s : Session}

def AllPatterns (engine : Pattern.Engine) (patterns : List String) : Prop :=
  ∀ raw ∈ patterns, (engine raw).isSome = true

theorem allPatterns_cons {raw : String} :
    AllPatterns engine (raw :: patterns) ↔
      (∃ c, engine raw = some c) ∧ AllPatterns engine patterns := by
  rw [AllPatterns, List.forall_mem_cons, Option.isSome_iff_exists]
  rfl

theorem not_allPatterns_iff :
    ¬ AllPatterns engine patterns ↔ ∃ raw ∈ patterns, engine raw = none := by
  simp [AllPatterns]

def Form.Alone (engine : Pattern.Engine) (f : Form) : Prop := engine f.raw = some f.compiled

def Form.enclosed (f : Form) : Form :=
  ⟨f.raw, Pattern.anchored f.compiled.pattern, f.compiled.names⟩

theorem Form.Alone.form_raw (h : f.Alone engine) (hstandard : engine.Standard)
    (hmarks : ∃ c, engine (anchored f.raw) = some c) :
    formWith engine f.raw = .ok f.enclosed := by
  obtain ⟨c, hc⟩ := hmarks
  rw [formWith, hc, hstandard.marks h hc]
  rfl

def Form.said (f : Form) (id : String) (found : Pattern.Cursor) : Fields :=
  Keyed.ofList (f.compiled.names.filterMap fun e =>
    ((found.captured? id.toList e.2).map String.ofList).map (e.1, ·))

theorem Form.match?_enclosed (f : Form) (id : String) :
    f.enclosed.match? id = (f.compiled.pattern.whole? id.toList).map (f.said id) := by
  have hsaid : f.said id = fun found => Keyed.ofList (f.compiled.names.filterMap fun e =>
      (found.captured? id.toList e.2).map fun text => (e.1, String.ofList text)) := by
    funext found
    simp only [said, Option.map_map]
    rfl
  rw [match?, enclosed, Pattern.search_anchored, hsaid]
  rfl

theorem Form.Alone.get?_said (h : f.Alone engine) (hstandard : engine.Standard)
    (found : Pattern.Cursor) (name : String) :
    Keyed.get? name (f.said id found) = f.compiled.captured? id.toList found name :=
  Keyed.get?_ofList_filterMap (hstandard.names h)
    (fun index => (found.captured? id.toList index).map String.ofList) name

/-- The fields are those captured, and the defaults of the other names that some pattern mentions.
-/
structure Filled (forms : List Form) (defaults : Fields) (took : String → Option String)
    (fields : Fields) : Prop where
  ascending : Keyed.Ascending fields
  captured : ∀ name value, took name = some value → Keyed.get? name fields = some value
  mentioned : ∀ name, took name = none → (∃ f ∈ forms, f.compiled.Mentions name) →
    Keyed.get? name fields = Keyed.get? name defaults
  unmentioned : ∀ name, (¬ ∃ f ∈ forms, f.compiled.Mentions name) →
    Keyed.get? name fields = none

inductive Resolution (forms : List Form) (id : String) (defaults : Fields) :
    Except Failure Fields → Prop
  | matched {before after : List Form} {winner : Form} {found : Pattern.Cursor} {fields : Fields}
      (hforms : forms = before ++ winner :: after)
      (hbefore : ∀ f ∈ before, f.compiled.pattern.whole? id.toList = none)
      (hfound : winner.compiled.pattern.whole? id.toList = some found)
      (hfields : Filled forms defaults (winner.compiled.captured? id.toList found) fields) :
      Resolution forms id defaults (.ok fields)
  | unmatched (hnone : ∀ f ∈ forms, f.compiled.pattern.whole? id.toList = none) :
      Resolution forms id defaults (.error (.noPatternMatched id (forms.map (·.raw))))

theorem Filled.unique {took : String → Option String} {other : Fields}
    (h : Filled forms defaults took fields) (h' : Filled forms defaults took other) :
    fields = other := by
  apply h.ascending.ext h'.ascending
  intro name
  cases htook : took name with
  | some value => rw [h.captured name value htook, h'.captured name value htook]
  | none =>
      by_cases hmentioned : ∃ f ∈ forms, f.compiled.Mentions name
      · rw [h.mentioned name htook hmentioned, h'.mentioned name htook hmentioned]
      · rw [h.unmentioned name hmentioned, h'.unmentioned name hmentioned]

theorem find?_winner {before after : List Form} {winner : Form} {found : Pattern.Cursor}
    (hforms : forms = before ++ winner :: after)
    (hbefore : ∀ f ∈ before, f.compiled.pattern.whole? id.toList = none)
    (hfound : winner.compiled.pattern.whole? id.toList = some found) :
    forms.find? (fun f => (f.compiled.pattern.whole? id.toList).isSome) = some winner := by
  refine List.find?_eq_some_iff_append.2 ⟨?_, before, after, hforms, ?_⟩
  · rw [hfound]
    rfl
  · intro f hf
    rw [hbefore f hf]
    rfl

theorem Resolution.unique {outcome other : Except Failure Fields}
    (h : Resolution forms id defaults outcome) (h' : Resolution forms id defaults other) :
    outcome = other := by
  cases h with
  | matched hforms hbefore hfound hfields =>
      have hwinner := find?_winner hforms hbefore hfound
      cases h' with
      | matched hforms' hbefore' hfound' hfields' =>
          obtain rfl := Option.some.inj (hwinner.symm.trans (find?_winner hforms' hbefore' hfound'))
          obtain rfl := Option.some.inj (hfound.symm.trans hfound')
          rw [hfields.unique hfields']
      | unmatched hnone =>
          rw [hnone _ (List.mem_of_find?_eq_some hwinner)] at hfound
          cases hfound
  | unmatched hnone =>
      cases h' with
      | matched hforms hbefore hfound _ =>
          rw [hnone _ (List.mem_of_find?_eq_some (find?_winner hforms hbefore hfound))] at hfound
          cases hfound
      | unmatched _ => rfl

theorem firstMatch?_eq_none (h : firstMatch? id forms = none) :
    ∀ f ∈ forms, f.match? id = none := by
  induction forms with
  | nil => exact nofun
  | cons f rest ih =>
      rw [firstMatch?] at h
      split at h
      · cases h
      · next hnone => exact List.forall_mem_cons.2 ⟨hnone, ih h⟩

theorem firstMatch?_eq_some (h : firstMatch? id forms = some (f, fields)) :
    ∃ before after, forms = before ++ f :: after ∧ (∀ g ∈ before, g.match? id = none) ∧
      f.match? id = some fields := by
  induction forms with
  | nil => cases h
  | cons g rest ih =>
      rw [firstMatch?] at h
      split at h
      · next hmatch =>
        cases h
        exact ⟨[], rest, rfl, List.forall_mem_nil _, hmatch⟩
      · next hnone =>
        obtain ⟨before, after, rfl, hbefore, hmatch⟩ := ih h
        exact ⟨g :: before, after, rfl, List.forall_mem_cons.2 ⟨hnone, hbefore⟩, hmatch⟩

theorem mapM_form_of_alone (hstandard : engine.Standard) (halone : ∀ f ∈ forms, f.Alone engine)
    (hmarks : AllPatterns engine ((forms.map (·.raw)).map anchored)) :
    (forms.map (·.raw)).mapM (formWith engine) = .ok (forms.map Form.enclosed) := by
  induction forms with
  | nil => rfl
  | cons f rest ih =>
      rw [List.forall_mem_cons] at halone
      rw [List.map_cons, List.map_cons, allPatterns_cons] at hmarks
      rw [List.map_cons, List.mapM_cons, halone.1.form_raw hstandard hmarks.1, ih halone.2 hmarks.2]
      rfl

theorem filled_of_alone (hstandard : engine.Standard) {winner : Form}
    (halone : winner.Alone engine) (hmem : winner ∈ forms) (found : Pattern.Cursor) :
    Filled forms defaults (winner.compiled.captured? id.toList found)
      (fill defaults (winner.said id found)
        ((forms.map Form.enclosed).flatMap fun f => f.compiled.names.map (·.1))) := by
  have hnames : ∀ name, (name ∈ (forms.map Form.enclosed).flatMap fun f =>
      f.compiled.names.map (·.1)) ↔ ∃ f ∈ forms, f.compiled.Mentions name := by
    intro name
    rw [List.flatMap_map, List.mem_flatMap]
    rfl
  refine ⟨ascending_fill (Keyed.ascending_ofList _), ?_, ?_, ?_⟩
  · intro name value hvalue
    rw [get?_fill, halone.get?_said hstandard, hvalue, Option.some_or]
  · intro name hnone hmentioned
    rw [get?_fill, halone.get?_said hstandard, hnone, Option.none_or,
      if_pos ((hnames name).2 hmentioned)]
  · intro name hnot
    have hnone : winner.compiled.captured? id.toList found name = none := by
      cases hvalue : winner.compiled.captured? id.toList found name with
      | none => rfl
      | some value =>
          exact absurd ⟨winner, hmem, Pattern.Compiled.mentions_of_captured? hvalue⟩ hnot
    rw [get?_fill, halone.get?_said hstandard, hnone, Option.none_or,
      if_neg (hnot ∘ (hnames name).1)]

theorem resolution_of_alone (hstandard : engine.Standard) (halone : ∀ f ∈ forms, f.Alone engine)
    (hmarks : AllPatterns engine ((forms.map (·.raw)).map anchored))
    (id : String) (defaults : Fields) (s : Session) :
    Resolution forms id defaults (resolveWith engine id (forms.map (·.raw)) defaults s).1 := by
  have hwhole : ∀ f : Form, f.enclosed.match? id = none →
      f.compiled.pattern.whole? id.toList = none := by
    intro f hnone
    rwa [f.match?_enclosed, Option.map_eq_none_iff] at hnone
  rw [resolveWith, mapM_form_of_alone hstandard halone hmarks]
  dsimp only
  cases hfirst : firstMatch? id (forms.map Form.enclosed) with
  | none =>
      exact .unmatched fun f hf => hwhole f (firstMatch?_eq_none hfirst _ (List.mem_map_of_mem hf))
  | some p =>
      obtain ⟨before, rest, hmap, hbefore, hmatch⟩ := firstMatch?_eq_some hfirst
      obtain ⟨front, back, hforms, rfl, hback⟩ := List.map_eq_append_iff.1 hmap
      obtain ⟨winner, after, rfl, hwinner, rfl⟩ := List.map_eq_cons_iff.1 hback
      rw [← hwinner, winner.match?_enclosed] at hmatch
      obtain ⟨found, hfound, hfields⟩ := Option.map_eq_some_iff.1 hmatch
      have hmem : winner ∈ forms := by
        rw [hforms]
        exact List.mem_append_right _ List.mem_cons_self
      refine .matched hforms ?_ hfound ?_
      · exact fun f hf => hwhole f (hbefore _ (List.mem_map_of_mem hf))
      · rw [← hfields]
        exact filled_of_alone hstandard (halone winner hmem) hmem found

theorem mapM_form_of_allPatterns (h : AllPatterns engine (patterns.map anchored)) :
    ∃ forms, patterns.mapM (formWith engine) = .ok forms := by
  induction patterns with
  | nil => exact ⟨[], rfl⟩
  | cons first rest ih =>
      rw [List.map_cons, allPatterns_cons] at h
      obtain ⟨⟨c, hc⟩, hrest⟩ := h
      obtain ⟨forms, hforms⟩ := ih hrest
      rw [List.mapM_cons, formWith, hc, hforms]
      exact ⟨⟨first, c⟩ :: forms, rfl⟩

theorem mapM_form_of_not_allPatterns (h : ¬ AllPatterns engine (patterns.map anchored)) :
    ∃ raw ∈ patterns,
      patterns.mapM (formWith engine) = .error (.invalid "import pattern" (.badPattern raw)) := by
  induction patterns with
  | nil => exact absurd nofun h
  | cons first rest ih =>
      rw [List.mapM_cons, formWith]
      cases hfirst : engine (anchored first) with
      | none => exact ⟨first, List.mem_cons_self, rfl⟩
      | some c =>
          have hrest : ¬ AllPatterns engine (rest.map anchored) := by
            intro hrest
            exact h (allPatterns_cons.2 ⟨⟨c, hfirst⟩, hrest⟩)
          obtain ⟨raw, hraw, herror⟩ := ih hrest
          refine ⟨raw, List.mem_cons_of_mem _ hraw, ?_⟩
          rw [herror]
          rfl

def Refused (patterns : List String) (outcome : Except Failure Fields) : Prop :=
  ∃ raw ∈ patterns, outcome = .error (.invalid "import pattern" (.badPattern raw))

theorem refused_iff (id : String) (defaults : Fields) (s : Session) :
    Refused patterns (resolveWith engine id patterns defaults s).1 ↔
      ¬ AllPatterns engine (patterns.map anchored) := by
  constructor
  · rintro ⟨raw, _, herror⟩ hall
    obtain ⟨forms, hforms⟩ := mapM_form_of_allPatterns hall
    rw [resolveWith, hforms] at herror
    dsimp only at herror
    split at herror <;> cases herror
  · intro h
    obtain ⟨raw, hraw, herror⟩ := mapM_form_of_not_allPatterns h
    refine ⟨raw, hraw, ?_⟩
    rw [resolveWith, herror]

theorem Resolution.not_refused {outcome : Except Failure Fields}
    (h : Resolution forms id defaults outcome) : ¬ Refused patterns outcome := by
  rintro ⟨raw, _, rfl⟩
  cases h

theorem exists_forms (h : AllPatterns engine patterns) :
    ∃ forms : List Form, forms.map (·.raw) = patterns ∧ ∀ f ∈ forms, f.Alone engine := by
  induction patterns with
  | nil => exact ⟨[], rfl, nofun⟩
  | cons first rest ih =>
      obtain ⟨⟨c, hc⟩, hrest⟩ := allPatterns_cons.1 h
      obtain ⟨forms, hraw, halone⟩ := ih hrest
      exact ⟨⟨first, c⟩ :: forms, congrArg (first :: ·) hraw, List.forall_mem_cons.2 ⟨hc, halone⟩⟩

theorem allPatterns_of_alone (h : ∀ f ∈ forms, f.Alone engine) :
    AllPatterns engine (forms.map (·.raw)) := by
  rw [AllPatterns, List.forall_mem_map]
  exact fun f hf => Option.isSome_iff_exists.2 ⟨_, h f hf⟩

/-- What is said of every list of patterns: one of patterns resolves each id as above, and one with
something else in it is refused whatever the id is. -/
structure Lawful (engine : Pattern.Engine) (patterns : List String) : Prop where
  resolves : ∀ forms : List Form, forms.map (·.raw) = patterns → (∀ f ∈ forms, f.Alone engine) →
    ∀ id defaults s, Resolution forms id defaults (resolveWith engine id patterns defaults s).1
  refuses : ¬ AllPatterns engine patterns →
    ∀ id defaults s, Refused patterns (resolveWith engine id patterns defaults s).1

def EachMarked (engine : Pattern.Engine) (raw : String) : Prop :=
  ∀ p q names c, engine raw = some ⟨.alt p q, names⟩ → engine (anchored raw) = some c →
    ∀ text, c.pattern.search text = (p.whole? text).or (q.whole? text)

theorem eachMarked (hstandard : engine.Standard) (raw : String) : EachMarked engine raw := by
  intro p q names c halone hmarks text
  rw [hstandard.marks halone hmarks, ← Pattern.whole?_alt]
  exact Pattern.search_anchored (.alt p q) text

/-- Both halves hold exactly where the marks of a whole match make no difference to whether all of
the list are patterns. -/
theorem lawful_iff_allPatterns_iff (hstandard : engine.Standard) (patterns : List String) :
    (Lawful engine patterns ↔
        (AllPatterns engine patterns ↔ AllPatterns engine (patterns.map anchored))) ∧
      ∀ raw ∈ patterns, EachMarked engine raw := by
  refine ⟨⟨?_, ?_⟩, fun raw _ => eachMarked hstandard raw⟩
  · intro h
    -- Any id will do, since none of the two answers depends on it.
    have s : Session := .start [] fun n => ⟨n⟩
    constructor
    · intro hall
      obtain ⟨forms, hraw, halone⟩ := exists_forms hall
      apply Classical.byContradiction
      intro hmarks
      exact (h.resolves forms hraw halone "" [] s).not_refused ((refused_iff "" [] s).2 hmarks)
    · intro hmarks
      apply Classical.byContradiction
      intro hall
      exact (refused_iff "" [] s).1 (h.refuses hall "" [] s) hmarks
  · intro h
    constructor
    · rintro forms rfl halone
      exact resolution_of_alone hstandard halone (h.1 (allPatterns_of_alone halone))
    · intro hall id defaults s
      exact (refused_iff id defaults s).2 (hall ∘ h.2)

namespace Optional

def listed : List String := ["(?P<zone>[^/]+)/(?P<name>web|db)(?:@(?P<region>.+))?", "x|y"]

theorem allPatterns : AllPatterns Pattern.compile? listed := by
  unfold AllPatterns
  decide +kernel

theorem allPatterns_anchored : AllPatterns Pattern.compile? (listed.map anchored) := by
  unfold AllPatterns
  decide +kernel

theorem lawful_of_optional :
    Lawful Pattern.compile? listed ∧ ∀ raw ∈ listed, EachMarked Pattern.compile? raw := by
  have h := lawful_iff_allPatterns_iff Pattern.standard_compile? listed
  exact ⟨h.1.2 ⟨fun _ => allPatterns_anchored, fun _ => allPatterns⟩, h.2⟩

end Optional

namespace Unbalanced

def raw : String := "(?P<name>web))|(?:db"

def session : Session := .start [] fun n => ⟨n⟩

/-- Alone this is no pattern. Between the marks its parentheses close the group of the marks and
open another, and then each alternative has one mark only: the beginning of the id is enough. -/
theorem beginning_taken_for_whole :
    ¬ Lawful Pattern.compile? [raw] ∧ Pattern.compile? raw = none ∧
      (resolve "web/old" [raw] [] session).1 = .ok [("name", "web")] := by
  have hraw : Pattern.compile? raw = none := by decide +kernel
  have hok : (resolve "web/old" [raw] [] session).1 = .ok [("name", "web")] := by decide +kernel
  refine ⟨?_, hraw, hok⟩
  intro h
  have hall : ¬ AllPatterns Pattern.compile? [raw] :=
    not_allPatterns_iff.2 ⟨raw, List.mem_singleton_self raw, hraw⟩
  obtain ⟨_, _, herror⟩ := h.refuses hall "web/old" [] session
  rw [hok] at herror
  cases herror

end Unbalanced

end ImportId

end Reconcile
