import Reconcile.Proofs.Reference.Link

namespace Reconcile.SelfLink

variable {link before version other after : String}

def versioned (before version after : String) : String :=
  before ++ "/compute/" ++ version ++ "/projects/" ++ after

/-- The link names this version: text without a slash between its first `/compute/` and a
`/projects/` directly after it. -/
structure HasVersion (link before version after : String) : Prop where
  text : link = versioned before version after
  slashless : '/' ∉ version.toList
  first : ∀ lead rest : String, link = lead ++ "/compute/" ++ rest → before.length ≤ lead.length

theorem toList_service : "/compute/".toList = service := rfl

theorem toList_projects : "/projects/".toList = projects := rfl

theorem toList_versioned (before version after : String) :
    (versioned before version after).toList =
      before.toList ++ service ++ (version.toList ++ (projects ++ after.toList)) := by
  simp only [versioned, String.toList_append, toList_service, toList_projects, List.append_assoc]

theorem HasVersion.cut_service (h : HasVersion link before version after) :
    Text.cut? service link.toList =
      some (before.toList, version.toList ++ (projects ++ after.toList)) := by
  rw [Text.cut?_eq_some_iff]
  refine ⟨?_, ?_⟩
  · rw [h.text, toList_versioned]
  · intro lead tail hlink
    have htext : link = String.ofList lead ++ "/compute/" ++ String.ofList tail := by
      rw [← String.toList_inj, hlink]
      simp only [String.toList_append, String.toList_ofList, toList_service]
    have hfirst := h.first _ _ htext
    rwa [String.length_ofList, ← String.length_toList] at hfirst

theorem hasVersion_of_cut (hslash : '/' ∉ version.toList)
    (h : Text.cut? service link.toList =
      some (before.toList, version.toList ++ (projects ++ after.toList))) :
    HasVersion link before version after := by
  obtain ⟨hlink, hfirst⟩ := Text.cut?_eq_some_iff.1 h
  refine ⟨?_, hslash, ?_⟩
  · rw [← String.toList_inj, toList_versioned, hlink]
  · intro lead rest htext
    rw [← String.length_toList, ← String.length_toList]
    apply hfirst lead.toList rest.toList
    rw [htext, String.toList_append, String.toList_append, toList_service]

theorem cut_projects {version : List Char} (h : '/' ∉ version) (after : List Char) :
    Text.cut? projects (version ++ (projects ++ after)) = some (version, after) := by
  obtain ⟨piece, hpiece⟩ : ∃ piece, projects = '/' :: piece := ⟨"projects/".toList, by decide⟩
  rw [hpiece]
  exact Text.cut?_append_piece h after

theorem HasVersion.replace (h : HasVersion link before version after)
    (hother : '/' ∉ other.toList) :
    HasVersion (versioned before other after) before other after := by
  apply hasVersion_of_cut hother
  rw [Text.cut?_eq_some_iff]
  refine ⟨toList_versioned before other after, ?_⟩
  intro lead tail htext
  rw [toList_versioned] at htext
  by_contra hshort
  have hlength : (lead ++ service).length ≤ (before.toList ++ service).length := by
    simp only [List.length_append]
    omega
  have hlead : lead ++ service <+:
      before.toList ++ service ++ (other.toList ++ (projects ++ after.toList)) :=
    ⟨tail, htext.symm⟩
  obtain ⟨between, hbetween⟩ :=
    List.prefix_of_prefix_length_le hlead (List.prefix_append _ _) hlength
  have hearlier := (Text.cut?_eq_some_iff.1 h.cut_service).2 lead
    (between ++ (version.toList ++ (projects ++ after.toList)))
  rw [h.text, toList_versioned, ← hbetween] at hearlier
  exact hshort (hearlier (by simp only [List.append_assoc]))

theorem firstVersion_of_hasVersion (h : HasVersion link before version after) :
    firstVersion link = versioned before "v1" after := by
  have hslash : version.toList.contains '/' = false := by simpa using h.slashless
  rw [firstVersion, firstVersionChars, h.cut_service]
  dsimp only
  rw [cut_projects h.slashless]
  dsimp only
  rw [hslash, ← String.toList_inj, toList_versioned, String.toList_ofList]
  simp only [Bool.false_eq_true, if_false, List.append_assoc]
  rfl

theorem firstVersion_of_no_version
    (h : ¬ ∃ before version after, HasVersion link before version after) :
    firstVersion link = link := by
  rw [firstVersion, firstVersionChars, ← String.toList_inj, String.toList_ofList]
  split
  · rfl
  · next before rest hservice =>
      split
      · rfl
      · next version path hprojects =>
          split
          · rfl
          · next hslash =>
              rw [Text.eq_of_cut? hprojects, List.append_assoc] at hservice
              refine absurd ⟨String.ofList before, String.ofList version, String.ofList path,
                hasVersion_of_cut ?_ ?_⟩ h
              · simpa using hslash
              · simpa only [String.toList_ofList] using hservice

theorem firstVersion_idem (link : String) :
    firstVersion (firstVersion link) = firstVersion link := by
  by_cases h : ∃ before version after, HasVersion link before version after
  · obtain ⟨before, version, after, h⟩ := h
    have hagain : HasVersion (versioned before "v1" after) before "v1" after :=
      h.replace (by decide)
    rw [firstVersion_of_hasVersion h, firstVersion_of_hasVersion hagain]
  · rw [firstVersion_of_no_version h, firstVersion_of_no_version h]

theorem name_versioned (before version after : String) :
    name (versioned before version after) =
      String.ofList (nameChars ("projects/".toList ++ after.toList)) := by
  have hprojects : projects = '/' :: "projects/".toList := by decide
  have hname : 'p' ∈ "projects/".toList := by decide
  rw [name, toList_versioned, hprojects, ← List.append_assoc, List.cons_append,
    nameChars_suffix _ ⟨'p', List.mem_append_left _ hname, by decide⟩]

theorem name_firstVersion (link : String) : name (firstVersion link) = name link := by
  by_cases h : ∃ before version after, HasVersion link before version after
  · obtain ⟨before, version, after, h⟩ := h
    rw [firstVersion_of_hasVersion h, h.text, name_versioned, name_versioned]
  · rw [firstVersion_of_no_version h]

theorem nameChars_eq_nil_iff {s : List Char} : nameChars s = [] ↔ ∀ c ∈ s, c = '/' := by
  constructor
  · intro h c hc
    by_contra hne
    have hdrop := dropWhile_isSlash_ne_nil ⟨c, List.mem_reverse.2 hc, hne⟩
    have hhead := List.head_dropWhile_not isSlash hdrop
    rw [nameChars, List.reverse_eq_nil_iff] at h
    rw [← List.cons_head_tail hdrop, List.takeWhile_cons_of_pos (by simp [hhead])] at h
    cases h
  · intro h
    have hdrop : s.reverse.dropWhile isSlash = [] := by
      rw [List.dropWhile_eq_nil_iff]
      intro c hc
      simp [isSlash, h c (List.mem_reverse.1 hc)]
    rw [nameChars, hdrop]
    rfl

/-- Links that differ in their version only have one form in the first version, which a second
conversion leaves as it is; a link without a version is its own form. The name of a link is the same
in that form, is empty for a link of slashes only, and is its own name. -/
theorem first_version_law :
    (∀ link, firstVersion (firstVersion link) = firstVersion link) ∧
    (∀ link before version after, HasVersion link before version after →
      firstVersion link = versioned before "v1" after ∧
      ∀ other : String, '/' ∉ other.toList →
        firstVersion (versioned before other after) = firstVersion link) ∧
    (∀ link, (¬ ∃ before version after, HasVersion link before version after) →
      firstVersion link = link) ∧
    (∀ link, name (firstVersion link) = name link) ∧
    ∀ link, '/' ∉ (name link).toList ∧ (name link = "" ↔ ∀ c ∈ link.toList, c = '/') ∧
      name (name link) = name link := by
  refine ⟨firstVersion_idem, ?_, fun link => firstVersion_of_no_version, name_firstVersion, ?_⟩
  · intro link before version after h
    have hform := firstVersion_of_hasVersion h
    refine ⟨hform, ?_⟩
    intro other hother
    rw [hform, firstVersion_of_hasVersion (h.replace hother)]
  · intro link
    have hslashless : '/' ∉ (name link).toList := by
      rw [name, String.toList_ofList]
      exact not_mem_nameChars link.toList
    refine ⟨hslashless, ?_, ?_⟩
    · rw [← nameChars_eq_nil_iff, name, ← String.toList_inj, String.toList_ofList]
      rfl
    · rw [name, nameChars_of_not_mem hslashless, String.ofList_toList]

namespace Nested

def unversioned : String := "https://api.test/compute//projects/compute/compute/beta/projects//"

theorem empty_version_replaced :
    HasVersion unversioned "https://api.test" "" "compute/compute/beta/projects//" ∧
    (¬ ∃ before version after,
      HasVersion "compute/v1/projects/p1" before version after) ∧
    firstVersion unversioned =
      "https://api.test/compute/v1/projects/compute/compute/beta/projects//" ∧
    firstVersion (versioned "https://api.test" "alpha" "compute/compute/beta/projects//") =
      firstVersion unversioned ∧
    firstVersion "compute/v1/projects/p1" = "compute/v1/projects/p1" ∧
    name unversioned = "projects" := by
  obtain ⟨_, hversion, hnone, _, _⟩ := first_version_law
  have hlink : HasVersion unversioned "https://api.test" "" "compute/compute/beta/projects//" :=
    hasVersion_of_cut (by decide) (by decide +kernel)
  have hbare : ¬ ∃ before version after,
      HasVersion "compute/v1/projects/p1" before version after := by
    rintro ⟨before, version, after, h⟩
    have hcut : Text.cut? service "compute/v1/projects/p1".toList = none := by decide +kernel
    have hfound := h.cut_service
    rw [hcut] at hfound
    cases hfound
  obtain ⟨hform, hsame⟩ := hversion _ _ _ _ hlink
  exact ⟨hlink, hbare, hform, hsame "alpha" (by decide), hnone _ hbare, by decide +kernel⟩

end Nested

end Reconcile.SelfLink
