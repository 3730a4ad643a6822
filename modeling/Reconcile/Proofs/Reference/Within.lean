import Reconcile.Proofs.Keyed
import Reconcile.Proofs.Reference.Spellings
import Reconcile.Template

namespace Reconcile.Reference

variable {field value collection project region : String} {scope : Scope} {identity : Fields}
  {declared ambient fallback location : Option String} {r : Reference} {linked : Option Reference}

def within (r : Reference) (identity : Fields) : Reference :=
  { r with
    project := (Keyed.get? "project" identity).getD r.project
    location := if r.scope = .regional then Keyed.get? "region" identity else r.location }

structure Within (r : Reference) (identity : Fields) : Prop where
  project : Keyed.get? "project" identity = some r.project
  region : r.scope = .regional → Keyed.get? "region" identity = r.location

theorem within_eq_self_iff (hproject : Keyed.get? "project" identity = some project) :
    r.within identity = r ↔ r.Within identity := by
  obtain ⟨p, l, c, n, scope⟩ := r
  constructor
  · intro h
    simp only [within, hproject, Option.getD_some, Reference.mk.injEq, and_true] at h
    obtain ⟨rfl, hlocation⟩ := h
    refine ⟨hproject, fun hscope => ?_⟩
    rwa [if_pos hscope] at hlocation
  · rintro ⟨hp, hr⟩
    simp only [within, hp, Option.getD_some, Reference.mk.injEq, and_true, true_and]
    split
    · next hscope => exact hr hscope
    · rfl

theorem append_slash_inj {a b s t : String} (hs : '/' ∉ s.toList) (ht : '/' ∉ t.toList)
    (h : a ++ "/" ++ s = b ++ "/" ++ t) : a = b ∧ s = t := by
  have htext : ∀ a s : String, (a ++ "/" ++ s).toList = a.toList ++ '/' :: s.toList := by simp
  have hlists := congrArg String.toList h
  rw [htext, htext, Text.append_sep_inj hs ht] at hlists
  exact ⟨String.toList_injective hlists.1, String.toList_injective hlists.2⟩

theorem places_inj {p p' l l' : String} (hl : '/' ∉ l.toList) (hl' : '/' ∉ l'.toList)
    (h : "projects/" ++ p ++ "/" ++ places scope ++ "/" ++ l =
      "projects/" ++ p' ++ "/" ++ places scope ++ "/" ++ l') : p = p' ∧ l = l' := by
  obtain ⟨hlead, hlast⟩ := append_slash_inj hl hl' h
  exact ⟨by simpa using hlead, hlast⟩

theorem relativeLink_inj {p p' name : String} {l l' : Option String}
    (hl : ∀ text ∈ l, '/' ∉ text.toList) (hl' : ∀ text ∈ l', '/' ∉ text.toList)
    (hlocated : Located ⟨p, l, collection, name, scope⟩)
    (hlocated' : Located ⟨p', l', collection, name, scope⟩)
    (h : relativeLink ⟨p, l, collection, name, scope⟩ =
      relativeLink ⟨p', l', collection, name, scope⟩) : p = p' ∧ l = l' := by
  cases scope <;> cases l <;> cases l' <;> simp [Located] at hlocated hlocated' <;>
    simp [relativeLink] at h ⊢
  · exact h
  · exact h
  · exact places_inj (hl _ rfl) (hl' _ rfl) h
  · exact places_inj (hl _ rfl) (hl' _ rfl) h

theorem relativeLink_within_iff (hproject : Keyed.get? "project" identity = some project)
    (hlocated : r.Located) (hlocation : ∀ text ∈ r.location, '/' ∉ text.toList)
    (hregion : r.scope = .regional →
      ∃ text, Keyed.get? "region" identity = some text ∧ '/' ∉ text.toList) :
    (r.within identity).relativeLink = r.relativeLink ↔ r.Within identity := by
  have hwithin : (∀ text ∈ (r.within identity).location, '/' ∉ text.toList) ∧
      (r.within identity).Located := by
    by_cases hscope : r.scope = .regional
    · obtain ⟨text, htext, hslash⟩ := hregion hscope
      have hback : (r.within identity).location = some text := by simp [within, hscope, htext]
      rw [hback, Located, hback]
      refine ⟨?_, by simp [within, hscope]⟩
      rintro _ ⟨⟩
      exact hslash
    · have hkept : (r.within identity).location = r.location := by simp [within, hscope]
      rw [hkept, Located, hkept]
      exact ⟨hlocation, hlocated⟩
  rw [← within_eq_self_iff hproject]
  constructor
  · intro h
    obtain ⟨p, l, c, n, scope⟩ := r
    obtain ⟨hp, hl⟩ := relativeLink_inj hwithin.1 hlocation hwithin.2 hlocated h
    simp only [within, Reference.mk.injEq, and_true]
    exact ⟨hp, hl⟩
  · intro h
    rw [h]

theorem resolve_within (h : resolve field value collection scope ambient fallback = .ok r)
    (hproject : Keyed.get? "project" identity = some project)
    (hplace : place field r.name scope none location = .ok (r.within identity).location) :
    resolve field r.name collection scope (some project) location = .ok (r.within identity) := by
  obtain ⟨hcollection, hscope⟩ := kind_of_resolve h
  rw [resolve_bare (isSegment_of_resolve h) hplace]
  simp [within, hproject, hcollection, hscope]

theorem location_eq_none (hlocated : r.Located) (hscope : r.scope = .project ∨ r.scope = .global) :
    r.location = none := by
  cases hlocation : r.location with
  | none => rfl
  | some text =>
      have hplaces := hlocated.1 (by rw [hlocation]; rfl)
      rcases hscope with h | h <;> simp [h] at hplaces

theorem place_within (hlocated : r.Located) (hscope : r.scope = .project ∨ r.scope = .global) :
    place field value r.scope none location = .ok (r.within identity).location := by
  have hnone := location_eq_none hlocated hscope
  rcases hscope with h | h <;> simp [place, within, h, hnone]

theorem linked_within
    (h : Linked (resolve field · collection scope ambient fallback) declared linked)
    (hproject : Keyed.get? "project" identity = some project)
    (hplace : ∀ r ∈ linked, r.Located → r.scope = scope →
      place field r.name scope none location = .ok (r.within identity).location) :
    Linked (resolve field · collection scope (Keyed.get? "project" identity) location)
      (linked.map (·.name)) (linked.map (·.within identity)) := by
  cases h with
  | none => exact .none
  | @some _ r hr =>
      rw [hproject]
      exact .some (resolve_within hr hproject
        (hplace r rfl (located_of_resolve hr) (kind_of_resolve hr).2))

/-- The link to an object in a request body, and what stands for it in the next one: the link to
the object of the same name within the identity, the same one exactly if the object lies there. -/
structure Renames (r : Reference) (identity : Fields) (link : Json) (again : Option Json) :
    Prop where
  link_eq : link = .str r.relativeLink
  again_eq : again = some (.str (r.within identity).relativeLink)
  same_iff : again = some link ↔ r.Within identity

theorem link_within {again : Option Json}
    (h : again = (linked.map (·.within identity)).map (.str ·.relativeLink)) :
    ∀ x ∈ linked, again = some (.str (x.within identity).relativeLink) := by
  rintro x hx
  rw [h, Option.mem_def.1 hx]
  rfl

theorem exists_of_sent {P : Reference → Prop} {sent : Option Json} {link : Json}
    (hsent : sent = linked.map (.str ·.relativeLink)) (hlinked : ∀ x ∈ linked, P x)
    (hlink : sent = some link) :
    ∃ x, P x ∧ link = .str x.relativeLink := by
  rw [hsent] at hlink
  obtain ⟨x, hx, rfl⟩ := Option.map_eq_some_iff.1 hlink
  exact ⟨x, hlinked x hx, rfl⟩

theorem exists_renames {P : Reference → Prop} {first again : Option Json} {link : Json}
    (hfirst : first = linked.map (.str ·.relativeLink)) (hlinked : ∀ x ∈ linked, P x)
    (hagain : ∀ x ∈ linked, again = some (.str (x.within identity).relativeLink))
    (hsame : ∀ x, P x → ((x.within identity).relativeLink = x.relativeLink ↔ x.Within identity))
    (hlink : first = some link) : ∃ x, P x ∧ x.Renames identity link again := by
  obtain ⟨x, ⟨hx, hlinked⟩, rfl⟩ :=
    exists_of_sent hfirst (fun x hx => And.intro hx (hlinked x hx)) hlink
  refine ⟨x, hlinked, rfl, hagain x hx, ?_⟩
  rw [← hsame x hlinked, hagain x hx]
  simp

end Reconcile.Reference
