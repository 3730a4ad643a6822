import Reconcile.Proofs.Ambient.Properties

namespace Reconcile.Ambient

open Properties (first?)

variable {a : Ambient} {value : String} {usable : String → Bool}
  {candidates more : List (Option String)}

def firstUsable (usable : String → Bool) (candidates : List (Option String)) : Option String :=
  candidates.findSome? (·.filter usable)

theorem firstUsable_cons (candidate : Option String) :
    firstUsable usable (candidate :: candidates) =
      (candidate.filter usable).or (firstUsable usable candidates) := by
  rw [firstUsable, List.findSome?_cons]
  cases candidate.filter usable <;> rfl

theorem firstUsable_append : firstUsable usable (candidates ++ more) =
    (firstUsable usable candidates).or (firstUsable usable more) :=
  List.findSome?_append

theorem usable_of_firstUsable (h : firstUsable usable candidates = some value) :
    usable value = true := by
  obtain ⟨candidate, _, hfilter⟩ := List.exists_of_findSome?_eq_some h
  exact (Option.filter_eq_some_iff.1 hfilter).2

def valueFrom? (a : Ambient) (select : Ambient → String → String → List (List Char))
    (part key : String) : Option String :=
  a.gcloudDir?.bind fun directory => first? key (select a directory part)

def activeValue? (a : Ambient) (part key : String) : Option String :=
  a.valueFrom? activeLines part key

def commonValue? (a : Ambient) (part key : String) : Option String :=
  a.valueFrom? commonLines part key

theorem property?_eq (a : Ambient) (part key : String) :
    (a.property? part key).1 = (a.activeValue? part key).or (a.commonValue? part key) := by
  unfold activeValue? commonValue? valueFrom?
  cases hdirectory : a.gcloudDir? with
  | none => simp [property?, hdirectory]
  | some directory => exact property?_eq_or hdirectory part key

theorem valueFrom?_filter (a : Ambient)
    (select : Ambient → String → String → List (List Char)) (part key : String) :
    (a.valueFrom? select part key).filter (· ≠ "") = a.valueFrom? select part key := by
  cases hvalue : a.valueFrom? select part key with
  | none => rfl
  | some value =>
      obtain ⟨directory, _, hfirst⟩ := Option.bind_eq_some_iff.1 hvalue
      obtain ⟨_, _, _, _, ⟨_, _, _, _, _, _, hne⟩, _⟩ := Properties.first?_eq_some_iff.1 hfirst
      simp [hne]

def projectCandidates (a : Ambient) : List (Option String) :=
  projectVariables.map a.lookup? ++
    [a.activeValue? "core" "project", a.commonValue? "core" "project"]

def placeCandidates (a : Ambient) (name key : String) : List (Option String) :=
  [a.lookup? name, a.activeValue? "compute" key, a.commonValue? "compute" key]

theorem projectIn?_eq (a : Ambient) (names : List String) :
    (a.projectIn? names).1 = firstUsable isProjectId (names.map a.lookup?) := by
  induction names with
  | nil => rfl
  | cons name names ih =>
      rw [List.map_cons, firstUsable_cons, ← ih, projectIn?]
      cases a.lookup? name with
      | none => rfl
      | some project => cases hid : isProjectId project <;> simp [hid, Option.filter_some]

theorem defaultProject_eq (a : Ambient) : a.defaultProject.1 =
    (firstUsable isProjectId (projectVariables.map a.lookup?)).or
      (((a.activeValue? "core" "project").or (a.commonValue? "core" "project")).filter
        isProjectId) := by
  rw [← projectIn?_eq, ← property?_eq, defaultProject]
  cases hin : a.projectIn? projectVariables with
  | mk found log => cases found <;> rfl

/-- No variable holds a project id, the active configuration names a project that is none, and the
common file one that is. -/
structure HidesProject (a : Ambient) : Prop where
  noVariable : ∀ name ∈ projectVariables, ∀ project, a.lookup? name = some project →
    isProjectId project = false
  active : ∃ project, a.activeValue? "core" "project" = some project ∧ isProjectId project = false
  common : ∃ project, a.commonValue? "core" "project" = some project ∧ isProjectId project

theorem firstUsable_eq_none_iff {names : List String} :
    firstUsable usable (names.map a.lookup?) = none ↔
      ∀ name ∈ names, ∀ value, a.lookup? name = some value → usable value = false := by
  simp [firstUsable, Option.filter_eq_none_iff]

theorem filter_or_eq_iff {first second : Option String} :
    (first.or second).filter usable = (first.filter usable).or (second.filter usable) ↔
      ¬ ((∃ value, first = some value ∧ usable value = false) ∧
        ∃ value, second = some value ∧ usable value) := by
  cases first with
  | none => simp
  | some value =>
      cases hvalue : usable value with
      | true => simp [Option.filter_some, hvalue]
      | false =>
          cases second with
          | none => simp [Option.filter_some, hvalue]
          | some other => cases hother : usable other <;> simp [Option.filter_some, hvalue, hother]

theorem defaultProject_iff (a : Ambient) :
    a.defaultProject.1 = firstUsable isProjectId a.projectCandidates ↔ ¬ a.HidesProject := by
  rw [defaultProject_eq, projectCandidates, firstUsable_append, firstUsable_cons, firstUsable_cons]
  have hnothing : firstUsable isProjectId [] = none := rfl
  rw [hnothing, Option.or_none]
  cases hvariables : firstUsable isProjectId (projectVariables.map a.lookup?) with
  | some project =>
      refine iff_of_true rfl ?_
      intro h
      rw [firstUsable_eq_none_iff.2 h.noVariable] at hvariables
      cases hvariables
  | none =>
      rw [Option.none_or, Option.none_or, filter_or_eq_iff, not_iff_not]
      constructor
      · rintro ⟨hactive, hcommon⟩
        exact ⟨firstUsable_eq_none_iff.1 hvariables, hactive, hcommon⟩
      · intro h
        exact ⟨h.active, h.common⟩

theorem variableOr_iff (a : Ambient) (name key : String) :
    (a.variableOr name "compute" key).1 = firstUsable (· ≠ "") (a.placeCandidates name key) ↔
      a.lookup? name ≠ some "" := by
  constructor
  · intro h hempty
    rw [variableOr, hempty] at h
    have hne := usable_of_firstUsable h.symm
    simp at hne
  · intro hset
    have hnothing : firstUsable (· ≠ "") [] = none := rfl
    simp only [placeCandidates, firstUsable_cons, activeValue?, commonValue?, valueFrom?_filter]
    rw [hnothing, Option.or_none, variableOr]
    cases hlookup : a.lookup? name with
    | none => exact a.property?_eq "compute" key
    | some value =>
        have hne : value ≠ "" := fun hvalue => hset (by rw [hlookup, hvalue])
        simp [Option.filter_some, hne]

/-- Discovery takes the first usable candidate exactly if no unusable project in the active
configuration hides the common one, and for a region or a zone exactly if its variable is not set to
nothing. -/
theorem discovery_skips_unusable_iff (a : Ambient) :
    (a.defaultProject.1 = firstUsable isProjectId a.projectCandidates ↔ ¬ a.HidesProject) ∧
    (a.defaultRegion.1 =
        firstUsable (· ≠ "") (a.placeCandidates "CLOUDSDK_COMPUTE_REGION" "region") ↔
      a.lookup? "CLOUDSDK_COMPUTE_REGION" ≠ some "") ∧
    (a.defaultZone.1 =
        firstUsable (· ≠ "") (a.placeCandidates "CLOUDSDK_COMPUTE_ZONE" "zone") ↔
      a.lookup? "CLOUDSDK_COMPUTE_ZONE" ≠ some "") :=
  ⟨a.defaultProject_iff, a.variableOr_iff _ _, a.variableOr_iff _ _⟩

namespace Hidden

def ambient : Ambient where
  environment := [("CLOUDSDK_CONFIG", "/work"), ("CLOUDSDK_COMPUTE_REGION", "")]
  read := reading [
    ("/work/active_config", "team\n"),
    ("/work/configurations/config_team", "[core]\nproject = Team\n"),
    ("/work/properties", "[core]\nproject = common-project\n[compute]\nregion = us-east1\n")]

/-- The common file has a project id and a region, but none is found. -/
theorem usable_defaults_hidden :
    firstUsable isProjectId ambient.projectCandidates = some "common-project" ∧
    ambient.defaultProject.1 = none ∧
    firstUsable (· ≠ "") (ambient.placeCandidates "CLOUDSDK_COMPUTE_REGION" "region") =
      some "us-east1" ∧
    ambient.defaultRegion.1 = some "" := by
  refine ⟨?_, ?_, ?_, ?_⟩ <;> decide +kernel

end Hidden

end Reconcile.Ambient
