import Reconcile.Proofs.Reference.Link
import Reconcile.Proofs.Url.Words

namespace Reconcile

theorem IsWord.isSegment {text : String} (h : IsWord text) : IsSegment text := by
  refine ⟨h.1, fun hslash => ?_⟩
  exact absurd (h.2 '/' hslash) (by decide)

namespace Reference

variable {field value collection project location name : String} {scope : Scope}
  {inProject inLocation placed : Option String} {r : Reference} {segments : List String}

def ofNames (scope : Scope) (collection project location name : String) : Reference where
  project := project
  location :=
    match scope with
    | .project => none
    | .global => none
    | .regional => some location
    | .zonal => some location
  collection := collection
  name := name
  scope := scope

inductive Spells (scope : Scope) (collection project location name : String) :
    String → Option String → Option String → Prop
  | bare : Spells scope collection project location name name (some project) (some location)
  | global {inLocation : Option String} : scope = .global →
      Spells scope collection project location name ("global/" ++ collection ++ "/" ++ name)
        (some project) inLocation
  | placed {inLocation : Option String} : scope = .regional ∨ scope = .zonal →
      Spells scope collection project location name
        (places scope ++ "/" ++ location ++ "/" ++ collection ++ "/" ++ name)
        (some project) inLocation
  | link {inProject inLocation : Option String} :
      Spells scope collection project location name
        (ofNames scope collection project location name).relativeLink inProject inLocation
  | url {inProject inLocation : Option String} {version : String} (slashes : Nat) :
      IsWord version → version ≠ "projects" →
      Spells scope collection project location name
        ("https://www.googleapis.com/compute/" ++ version ++ "/" ++
          (ofNames scope collection project location name).relativeLink ++
          String.ofList (List.replicate slashes '/'))
        inProject inLocation

theorem nil_mem_splitOn_of_isUrl {s : List Char} (h : isUrl s = true) :
    [] ∈ Text.splitOn '/' s := by
  have hpieces : ∀ lead rest : List Char, [] ∈ Text.splitOn '/' (lead ++ '/' :: '/' :: rest) := by
    intro lead rest
    rw [Text.splitOn_append_sep, show Text.splitOn '/' ('/' :: rest) = [] :: Text.splitOn '/' rest
      from rfl]
    simp
  rcases Bool.or_eq_true_iff.1 h with h | h
  · obtain ⟨rest, rfl⟩ := List.isPrefixOf_iff_prefix.1 h
    exact hpieces "https:".toList rest
  · obtain ⟨rest, rfl⟩ := List.isPrefixOf_iff_prefix.1 h
    exact hpieces "http:".toList rest

theorem stripUrl_of_segments (hsegments : ∀ piece ∈ segments, IsSegment piece)
    (hne : segments ≠ [])
    (hvalue : value.toList = Text.join ['/'] (segments.map String.toList)) :
    stripUrl field value = .ok (Text.join ['/'] (segments.map String.toList)) := by
  have hurl : isUrl value.toList = false := by
    rw [Bool.eq_false_iff]
    intro hurl
    have hnil := nil_mem_splitOn_of_isUrl hurl
    rw [hvalue, Text.splitOn_join (by simpa using hne)
      (List.forall_mem_map.2 fun piece hpiece => (hsegments piece hpiece).2)] at hnil
    obtain ⟨piece, hpiece, hempty⟩ := List.mem_map.1 hnil
    exact (hsegments piece hpiece).1 hempty
  rw [stripUrl, hurl, ← hvalue]
  rfl

theorem resolve_bare (hname : IsSegment name)
    (hplace : place field name scope none inLocation = .ok placed) :
    resolve field name collection scope (some project) inLocation =
      .ok ⟨project, placed, collection, name, scope⟩ := by
  have hsegments : ∀ piece ∈ [name], IsSegment piece := by simpa using hname
  exact resolve_of_shape (stripUrl_of_segments hsegments (by simp) rfl) hsegments .bare rfl hplace

theorem located_ofNames : (ofNames scope collection project location name).Located := by
  cases scope <;> simp [Located, ofNames]

theorem isWord_of_mem_pieces (scope : Scope) (hcollection : IsWord collection)
    (hproject : IsWord project) (hlocation : IsWord location) (hname : IsWord name) :
    ∀ piece ∈ (ofNames scope collection project location name).pieces, IsWord piece := by
  have hkeywords : IsWord "projects" ∧ IsWord "global" ∧ IsWord "regions" ∧ IsWord "zones" := by
    decide
  cases scope <;>
    simp [ofNames, pieces, places, hkeywords, hcollection, hproject, hlocation, hname]

theorem rooted_relativeLink (r : Reference) :
    ∃ rest, r.relativeLink.toList = "projects/".toList ++ rest := by
  obtain ⟨p, l, c, n, scope⟩ := r
  cases scope <;> cases l <;> simp [relativeLink]

theorem getLast?_relativeLink (h : r.name.toList ≠ []) :
    r.relativeLink.toList.getLast? = r.name.toList.getLast? := by
  have hlead : ∃ lead, r.relativeLink.toList = lead ++ r.name.toList := by
    unfold relativeLink
    split <;> exact ⟨_, String.toList_append⟩
  obtain ⟨lead, hlead⟩ := hlead
  rw [hlead, List.getLast?_append_of_ne_nil _ h]

theorem name_mem_pieces (r : Reference) : r.name ∈ r.pieces := by
  unfold pieces
  split <;> simp

def site : Url where
  scheme := "https".toList
  host := some (.domain "www.googleapis.com".toList)
  port := none
  path := [[]]
  opaquePath := []
  query := none
  fragment := none

theorem root_site : Url.Root "https://www.googleapis.com/" site where
  slash := rfl
  parsed := by decide +kernel
  web := by decide
  noQuery := rfl
  noFragment := rfl

theorem cut?_projects {version : List Char} (hversion : '/' ∉ version)
    (hother : version ≠ "projects".toList) (rest : List Char) :
    Text.cut? "/projects/".toList
        ('/' :: ("compute".toList ++ '/' :: (version ++ '/' :: ("projects/".toList ++ rest)))) =
      some ('/' :: ("compute".toList ++ '/' :: version), rest) := by
  have hpiece : "/projects/".toList = '/' :: ("projects".toList ++ ['/']) := rfl
  have hfound : Text.cut? "/projects/".toList ("/projects/".toList ++ rest) = some ([], rest) :=
    Text.cut?_append (by decide) rest
  have htext : '/' :: ("projects/".toList ++ rest) = "/projects/".toList ++ rest := rfl
  rw [hpiece, Text.cut?_between (by decide) (by decide) (by decide),
    Text.cut?_between (by decide) hversion hother, ← hpiece, htext, hfound]
  simp only [Option.map_some, List.append_nil]

def sitePath (version link : String) (slashes : Nat) : String :=
  "compute/" ++ version ++ "/" ++ link ++ String.ofList (List.replicate slashes '/')

theorem toList_sitePath (version link : String) (slashes : Nat) :
    (sitePath version link slashes).toList = "compute".toList ++ '/' :: (version.toList ++ '/' ::
      (link.toList ++ List.replicate slashes '/')) := by
  simp [sitePath]

theorem inWordPath_sitePath {version : String} (slashes : Nat) (hversion : IsWord version)
    (hpieces : ∀ piece ∈ r.pieces, IsWord piece) :
    ∀ c ∈ (sitePath version r.relativeLink slashes).toList, Url.InWordPath c := by
  have hcompute : IsWord "compute" := by decide
  have hlink := Url.inWordPath_of_words hpieces
  rw [← toList_relativeLink] at hlink
  intro c hc
  simp only [toList_sitePath, List.mem_append, List.mem_cons, List.mem_replicate] at hc
  rcases hc with hc | hc | hc | hc | hc | ⟨_, hc⟩
  · exact .inr (hcompute.2 c hc)
  · exact .inl hc
  · exact .inr (hversion.2 c hc)
  · exact .inl hc
  · exact hlink c hc
  · exact .inl hc

theorem cut?_sitePath {version : String} (slashes : Nat) (hversion : IsWord version)
    (hother : version ≠ "projects") :
    ∃ before rest, Text.cut? "/projects/".toList
          ('/' :: (sitePath version r.relativeLink slashes).toList) = some (before, rest) ∧
      "projects/".toList ++ rest = r.relativeLink.toList ++ List.replicate slashes '/' := by
  obtain ⟨rest, hrest⟩ := r.rooted_relativeLink
  have hother' : version.toList ≠ "projects".toList := fun h => hother (String.toList_injective h)
  have hcut := cut?_projects hversion.isSegment.2 hother' (rest ++ List.replicate slashes '/')
  rw [← List.append_assoc "projects/".toList, ← hrest, ← toList_sitePath] at hcut
  exact ⟨_, _, hcut, by rw [← List.append_assoc, ← hrest]⟩

theorem dropEndWhile_relativeLink (slashes : Nat) (hname : IsSegment r.name) :
    Text.dropEndWhile (· == '/') (r.relativeLink.toList ++ List.replicate slashes '/') =
      r.relativeLink.toList := by
  rw [Text.dropEndWhile_append_replicate rfl]
  apply Text.dropEndWhile_of_getLast?
  intro c hc
  rw [getLast?_relativeLink hname.1] at hc
  rw [beq_eq_false_iff_ne]
  exact ne_of_mem_of_not_mem (List.mem_of_mem_getLast? hc) hname.2

theorem stripUrl_url (field : String) {version : String} (slashes : Nat) (hversion : IsWord version)
    (hother : version ≠ "projects") (hpieces : ∀ piece ∈ r.pieces, IsWord piece) :
    stripUrl field ("https://www.googleapis.com/" ++ sitePath version r.relativeLink slashes) =
      .ok r.relativeLink.toList := by
  have hurl : isUrl ("https://www.googleapis.com/" ++
      sitePath version r.relativeLink slashes).toList = true := by
    simp [isUrl, List.isPrefixOf]
  obtain ⟨u, hparse, htext⟩ :=
    root_site.pathText_of_wordPath (inWordPath_sitePath slashes hversion hpieces)
  rw [String.ofList_toList] at hparse
  have hpath : u.pathText = '/' :: (sitePath version r.relativeLink slashes).toList := htext
  obtain ⟨before, rest, hcut, hrest⟩ := cut?_sitePath (r := r) slashes hversion hother
  rw [stripUrl, if_pos hurl, hparse]
  dsimp only
  rw [hpath, hcut]
  dsimp only
  rw [hrest, dropEndWhile_relativeLink slashes (hpieces _ r.name_mem_pieces).isSegment]

theorem resolve_of_spells (hcollection : IsWord collection) (hproject : IsWord project)
    (hlocation : IsWord location) (hname : IsWord name)
    (h : Spells scope collection project location name value inProject inLocation) :
    resolve field value collection scope inProject inLocation =
      .ok (ofNames scope collection project location name) := by
  have hwords := isWord_of_mem_pieces scope hcollection hproject hlocation hname
  have hpieces := fun piece hpiece => (hwords piece hpiece).isSegment
  cases h with
  | bare =>
      apply resolve_bare hname.isSegment
      cases scope <;> rfl
  | global hscope =>
      subst hscope
      have hsegments : ∀ piece ∈ ["global", collection, name], IsSegment piece := by
        have hglobal : IsSegment "global" := by decide
        simp [hglobal, hcollection.isSegment, hname.isSegment]
      exact resolve_of_shape (stripUrl_of_segments hsegments (by simp) (by simp [Text.join]))
        hsegments .global rfl rfl
  | placed hscope =>
      have hsegments : ∀ piece ∈ [places scope, location, collection, name], IsSegment piece := by
        have hplaces : IsSegment (places scope) := by rcases hscope with rfl | rfl <;> decide
        simp [hplaces, hlocation.isSegment, hcollection.isSegment, hname.isSegment]
      apply resolve_of_shape (stripUrl_of_segments hsegments (by simp) (by simp [Text.join]))
        hsegments (.placed hscope) rfl
      rcases hscope with rfl | rfl <;> rfl
  | link => exact resolve_relativeLink located_ofNames hpieces
  | url slashes hversion hother =>
      refine resolve_of_link ?_ located_ofNames hpieces
      rw [← stripUrl_url field slashes hversion hother hwords,
        show "https://www.googleapis.com/compute/" = "https://www.googleapis.com/" ++ "compute/"
          from rfl]
      simp only [sitePath, String.append_assoc]

theorem isSegment_of_mem_pieces (hcollection : IsSegment r.collection)
    (hproject : IsSegment r.project) (hlocation : ∀ text ∈ r.location, IsSegment text)
    (hname : IsSegment r.name) : ∀ piece ∈ r.pieces, IsSegment piece := by
  have hfixed : IsSegment "projects" ∧ IsSegment "global" ∧ IsSegment "regions" ∧
      IsSegment "zones" := by
    decide
  obtain ⟨p, l, c, n, scope⟩ := r
  cases scope <;> cases l <;> simp_all [pieces, places]

/-- All spellings of a reference resolve to it, and the link of whatever is resolved with segments
for fallbacks resolves to the same again, with any fallbacks. -/
theorem spellings_resolve (scope : Scope) (hcollection : IsWord collection) :
    (∀ project location name, IsWord project → IsWord location → IsWord name →
      ∀ value inProject inLocation,
        Spells scope collection project location name value inProject inLocation →
        ∀ field, resolve field value collection scope inProject inLocation =
          .ok (ofNames scope collection project location name)) ∧
    (∀ field value inProject inLocation r, (∀ text ∈ inProject, IsSegment text) →
      (∀ text ∈ inLocation, IsSegment text) →
      resolve field value collection scope inProject inLocation = .ok r →
      ∀ field inProject inLocation,
        resolve field r.relativeLink collection scope inProject inLocation = .ok r) := by
  constructor
  · intro project location name hproject hlocation hname value inProject inLocation h field
    exact resolve_of_spells hcollection hproject hlocation hname h
  · intro field value inProject inLocation r hproject hlocation h field inProject inLocation
    obtain ⟨rfl, rfl⟩ := kind_of_resolve h
    obtain ⟨hp, hl⟩ := parts_of_resolve h
    exact resolve_relativeLink (located_of_resolve h) (isSegment_of_mem_pieces
      hcollection.isSegment (hp.elim id (hproject _))
      (fun text htext => (hl text htext).elim id (hlocation text)) (isSegment_of_resolve h))

namespace Keywords

def reference : Reference := ⟨"projects", some "zones", "subnetworks", "global", .regional⟩

def link : String := "projects/projects/regions/zones/subnetworks/global"

theorem keywords_resolve :
    reference.relativeLink = link ∧
    resolve "subnetwork" "global" "subnetworks" .regional (some "projects") (some "zones") =
      .ok reference ∧
    resolve "subnetwork" "regions/zones/subnetworks/global" "subnetworks" .regional
      (some "projects") none = .ok reference ∧
    resolve "subnetwork" ("https://www.googleapis.com/compute/beta/" ++ link ++ "//") "subnetworks"
      .regional none none = .ok reference ∧
    resolve "subnetwork" link "subnetworks" .regional (some "p1") (some "us-east1") =
      .ok reference := by
  have hproject : IsWord "projects" := by decide
  have hlocation : IsWord "zones" := by decide
  obtain ⟨hspelled, hagain⟩ := spellings_resolve .regional (show IsWord "subnetworks" by decide)
  have hall := hspelled _ _ _ hproject hlocation (show IsWord "global" by decide)
  have hbare := hall _ _ _ .bare "subnetwork"
  refine ⟨by decide, hbare, hall _ _ _ (.placed (.inl rfl)) "subnetwork",
    hall _ _ _ (.url 2 (show IsWord "beta" by decide) (by decide)) "subnetwork", ?_⟩
  exact hagain _ _ _ _ _ (by simpa using hproject.isSegment) (by simpa using hlocation.isSegment)
    hbare "subnetwork" _ _

end Keywords

end Reference

end Reconcile
