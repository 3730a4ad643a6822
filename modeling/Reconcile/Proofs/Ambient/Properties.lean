import Reconcile.Ambient.Gcloud
import Reconcile.Proofs.Text.Pieces

namespace Reconcile

namespace Properties

variable {part key : String} {line : List Char} {before rest : List (List Char)} {value : String}

def lastHeader? (above : List (List Char)) : Option (List Char) := (above.filter isHeader).getLast?

/-- The lines, headers apart, whose last header above them is that of the section. -/
def under (part : String) (all : List (List Char)) : List (List Char) :=
  (all.zipIdx.filter fun p =>
    !isHeader p.1 && lastHeader? (all.take p.2) == some (header part)).map (·.1)

theorem lastHeader?_concat :
    lastHeader? (before ++ [line]) = if isHeader line then some line else lastHeader? before := by
  unfold lastHeader?
  by_cases hline : isHeader line <;> simp [hline]

theorem below_eq_filter (part : String) (before rest : List (List Char)) :
    below part (lastHeader? before == some (header part)) rest =
      ((rest.zipIdx before.length).filter fun p => !isHeader p.1 &&
        lastHeader? ((before ++ rest).take p.2) == some (header part)).map (·.1) := by
  induction rest generalizing before with
  | nil => rfl
  | cons line rest ih =>
      have hnext := ih (before ++ [line])
      rw [lastHeader?_concat, List.length_append, List.length_singleton, List.append_assoc,
        List.singleton_append] at hnext
      have habove : (before ++ line :: rest).take before.length = before := List.take_left
      by_cases hline : isHeader line
      · simp only [hline, if_true, Option.some_beq_some] at hnext
        simp [below, hline, hnext]
      · simp only [hline, Bool.false_eq_true, if_false] at hnext
        by_cases hinside : lastHeader? before == some (header part) <;>
          simp [below, hline, hinside, habove, ← hnext]

theorem below_eq_under (part : String) (all : List (List Char)) :
    below part false all = under part all :=
  below_eq_filter part [] all

def Gives (key : String) (line : List Char) (value : String) : Prop :=
  ∃ name rest, line = name ++ '=' :: rest ∧ '=' ∉ name ∧ trim name = key.toList ∧
    value.toList = trim rest ∧ value ≠ ""

theorem assigned?_map_eq_some_iff :
    (assigned? key line).map String.ofList = some value ↔ Gives key line value := by
  unfold assigned? Gives
  constructor
  · intro h
    split at h
    · next name rest hcut =>
        obtain ⟨hline, hname⟩ := Text.cut?_singleton_eq_some_iff.1 hcut
        split at h
        · next hgiven =>
            simp only [Bool.and_eq_true, decide_eq_true_eq, Bool.not_eq_true',
              List.isEmpty_eq_false_iff] at hgiven
            rw [Option.map_some, Option.some.injEq] at h
            subst h
            refine ⟨name, rest, hline, hname, hgiven.1, String.toList_ofList, ?_⟩
            rw [Ne, ← String.toList_eq_nil_iff, String.toList_ofList]
            exact hgiven.2
        · cases h
    · cases h
  · rintro ⟨name, rest, hline, hname, hkey, hvalue, hne⟩
    rw [Text.cut?_singleton_eq_some_iff.2 ⟨hline, hname⟩]
    simp [hkey, ← hvalue, hne]

def first? (key : String) (all : List (List Char)) : Option String :=
  all.findSome? fun line => (assigned? key line).map String.ofList

theorem first?_eq_none_iff {all : List (List Char)} :
    first? key all = none ↔ ∀ line ∈ all, ∀ value, ¬ Gives key line value := by
  rw [first?, List.findSome?_eq_none_iff]
  simp only [← assigned?_map_eq_some_iff, Option.eq_none_iff_forall_ne_some, Ne]

def FirstGiven (key : String) (all : List (List Char)) (value : String) : Prop :=
  ∃ before line after, all = before ++ line :: after ∧ Gives key line value ∧
    ∀ earlier ∈ before, ∀ value, ¬ Gives key earlier value

theorem first?_eq_some_iff {all : List (List Char)} :
    first? key all = some value ↔ FirstGiven key all value := by
  simp only [first?, FirstGiven, List.findSome?_eq_some_iff, assigned?_map_eq_some_iff,
    Option.eq_none_iff_forall_ne_some, Ne]

theorem value?_eq_first? (part key : String) (content : List Char) :
    value? part key content = first? key (under part (lines content)) := by
  rw [value?, below_eq_under, first?, List.map_findSome?]
  rfl

end Properties

namespace Ambient

open Properties (under Gives FirstGiven first?)

variable {a b : Ambient} {directory other path part key value : String}

def linesAt (a : Ambient) (part path : String) : List (List Char) :=
  match (a.read path).text? with
  | some content => under part (Properties.lines content)
  | none => []

def activeLines (a : Ambient) (directory part : String) : List (List Char) :=
  match a.activeConfiguration? directory with
  | some (.ok name) => a.linesAt part (configurationPath directory name)
  | _ => []

def commonLines (a : Ambient) (directory part : String) : List (List Char) :=
  a.linesAt part (child directory "properties")

theorem valueIn?_eq (a : Ambient) (path part key : String) :
    a.valueIn? path part key = first? key (a.linesAt part path) := by
  unfold valueIn? linesAt
  cases (a.read path).text? with
  | none => rfl
  | some content => exact Properties.value?_eq_first? part key content

theorem property?_eq_or (h : a.gcloudDir? = some directory) (part key : String) :
    (a.property? part key).1 = (first? key (a.activeLines directory part)).or
      (first? key (a.commonLines directory part)) := by
  simp only [property?, h, valueIn?_eq]
  unfold activeLines commonLines
  cases a.activeConfiguration? directory with
  | none => rfl
  | some name =>
      cases name with
      | error _ => rfl
      | ok name => exact Option.orElse_eq_or

structure IsFileName (file : String) : Prop where
  isOneSegment : '/' ∉ file.toList
  ne_empty : file ≠ ""
  ne_dot : file ≠ "."
  ne_dots : file ≠ ".."

def IsConsulted (directory path : String) : Prop :=
  path = child directory "active_config" ∨ path = child directory "properties" ∨
    ∃ file, IsFileName file ∧ path = child (child directory "configurations") file

theorem isFileName_of_active {name : String}
    (h : a.activeConfiguration? directory = some (.ok name)) : IsFileName ("config_" ++ name) := by
  unfold activeConfiguration? at h
  obtain ⟨content, _, hname⟩ := Option.map_eq_some_iff.1 h
  dsimp only at hname
  split at hname
  · next hall =>
      rw [Except.ok.injEq] at hname
      subst hname
      have hhead :
          ("config_" ++ String.ofList (Properties.trim content)).toList.head? = some 'c' := by
        simp
      constructor
      · intro hslash
        rw [String.toList_append, List.mem_append] at hslash
        rcases hslash with hfixed | hgiven
        · exact absurd hfixed (by decide)
        · have htrimmed : '/' ∈ Properties.trim content := by simpa using hgiven
          exact absurd (List.all_eq_true.1 hall _ htrimmed) (by decide)
      all_goals
        intro heq
        rw [heq] at hhead
        exact absurd hhead (by decide)
  · cases hname

theorem isConsulted_of_active {name : String}
    (h : a.activeConfiguration? directory = some (.ok name)) :
    IsConsulted directory (configurationPath directory name) :=
  .inr (.inr ⟨_, isFileName_of_active h, rfl⟩)

theorem linesAt_congr (h : b.read other = a.read path) (part : String) :
    b.linesAt part other = a.linesAt part path := by
  rw [linesAt, h, linesAt]

/-- Two directories agree on the active name, and on the lines of the section in the active
configuration and in the common file. -/
structure AgreeOn (part : String) (a : Ambient) (directory : String) (b : Ambient)
    (other : String) : Prop where
  active : (a.read (child directory "active_config")).text? =
    (b.read (child other "active_config")).text?
  common : a.commonLines directory part = b.commonLines other part
  configuration : ∀ name, a.activeConfiguration? directory = some (.ok name) →
    a.linesAt part (configurationPath directory name) =
      b.linesAt part (configurationPath other name)

theorem AgreeOn.property?_eq (h : AgreeOn part a directory b other)
    (ha : a.gcloudDir? = some directory) (hb : b.gcloudDir? = some other) :
    a.property? part key = b.property? part key := by
  have hname : b.activeConfiguration? other = a.activeConfiguration? directory := by
    rw [activeConfiguration?, activeConfiguration?, h.active]
  have hcommon := h.common
  unfold commonLines at hcommon
  simp only [property?, ha, hb, valueIn?_eq, hname, hcommon]
  split
  · rfl
  · rfl
  · next name hok => rw [h.configuration name hok]

theorem agreeOn_of_consulted
    (h : ∀ path, IsConsulted directory path → b.read path = a.read path) (part : String) :
    AgreeOn part a directory b directory where
  active := by rw [h _ (.inl rfl)]
  common := (linesAt_congr (h _ (.inr (.inl rfl))) part).symm
  configuration _ hname := (linesAt_congr (h _ (isConsulted_of_active hname)) part).symm

theorem gcloudDir?_congr (h : b.environment = a.environment) : b.gcloudDir? = a.gcloudDir? := by
  simp only [gcloudDir?, configDir?, home?, lookup?, h]

/-- A property depends on the active name and on the lines of its section in two files alone, so
whatever the active name is, nothing outside the directory's own files and its folder of
configurations is read. It is the first value of the key in the active configuration, or else the
first in the common file. -/
theorem property_read_in_place (part key : String) (ha : a.gcloudDir? = some directory) :
    (∀ b other, b.gcloudDir? = some other → AgreeOn part a directory b other →
      b.property? part key = a.property? part key) ∧
    (∀ b : Ambient, b.environment = a.environment →
      (∀ path, IsConsulted directory path → b.read path = a.read path) →
      b.property? part key = a.property? part key) ∧
    ∀ value, (a.property? part key).1 = some value ↔
      FirstGiven key (a.activeLines directory part) value ∨
      (∀ line ∈ a.activeLines directory part, ∀ value, ¬ Gives key line value) ∧
        FirstGiven key (a.commonLines directory part) value := by
  refine ⟨?_, ?_, ?_⟩
  · intro b other hb h
    exact (h.property?_eq ha hb).symm
  · intro b henvironment hread
    have hb : b.gcloudDir? = some directory := by rw [gcloudDir?_congr henvironment, ha]
    exact ((agreeOn_of_consulted hread part).property?_eq ha hb).symm
  · intro value
    rw [property?_eq_or ha, Option.or_eq_some_iff, Properties.first?_eq_some_iff,
      Properties.first?_eq_none_iff, Properties.first?_eq_some_iff]

def reading (files : List (String × String)) (path : String) : Reading :=
  match Keyed.get? path files with
  | some content => .bytes (Text.Utf8.encode content.toList)
  | none => .missing

namespace Twofold

def work : Ambient where
  environment := [("CLOUDSDK_CONFIG", "/work")]
  read := reading [
    ("/work/active_config", "team\n"),
    ("/work/configurations/config_team",
      "[core]\nregion = us-west1\n[compute]\n# region = us-west2\nregion = us-east1\r\n")]

def home : Ambient where
  environment := [("HOME", "/home/u")]
  read := reading [
    ("/home/u/.config/gcloud/active_config", "team\n"),
    ("/home/u/.config/gcloud/configurations/config_team",
      "  [compute]\n\n  region = us-east1\n[core]\nproject = another-project\n"),
    ("/home/u/.config/gcloud/properties", "[core]\nproject = common-project\n"),
    ("/home/u/.config/gcloud/configurations/config_other", "[compute]\nregion = us-west4\n")]

theorem same_region :
    work.gcloudDir? = some "/work" ∧ home.gcloudDir? = some "/home/u/.config/gcloud" ∧
    AgreeOn "compute" work "/work" home "/home/u/.config/gcloud" ∧
    home.property? "compute" "region" = work.property? "compute" "region" ∧
    (work.property? "compute" "region").1 = some "us-east1" := by
  have hwork : work.gcloudDir? = some "/work" := by decide +kernel
  have hhome : home.gcloudDir? = some "/home/u/.config/gcloud" := by decide +kernel
  have hagree : AgreeOn "compute" work "/work" home "/home/u/.config/gcloud" := by
    refine ⟨by decide +kernel, by decide +kernel, ?_⟩
    intro name hname
    have hactive : (work.read (child "/work" "active_config")).text? = some "team\n".toList := by
      decide +kernel
    have hteam : work.activeConfiguration? "/work" = some (.ok "team") := by
      rw [activeConfiguration?, hactive]
      rfl
    rw [hteam, Option.some.injEq, Except.ok.injEq] at hname
    subst hname
    decide +kernel
  exact ⟨hwork, hhome, hagree,
    (property_read_in_place "compute" "region" hwork).1 home _ hhome hagree, by decide +kernel⟩

end Twofold

end Ambient

end Reconcile
