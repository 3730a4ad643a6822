import Reconcile.Kind
import Reconcile.Proofs.Except
import Reconcile.Proofs.Keyed
import Reconcile.Proofs.Reference.Link

namespace Reconcile

def filled (declared : Option String) : Option String := declared.filter (!·.isEmpty)

theorem filled_of_nonempty {text : String} (h : text.isEmpty = false) :
    filled (some text) = some text := by
  simp [filled, Option.filter, h]

theorem filled_filled (declared : Option String) : filled (filled declared) = filled declared := by
  simp [filled]

theorem filled_or_self (text : String) : (filled (some text) <|> some text) = some text := by
  cases hempty : text.isEmpty <;> simp [filled, Option.filter, hempty]

theorem isSome_filled {declared : Option String} :
    (filled declared).isSome = declared.any (!·.isEmpty) := by
  cases declared with
  | none => rfl
  | some text => cases hempty : text.isEmpty <;> simp [filled, Option.filter, hempty]

namespace Payload

variable {α : Type} {p q : Payload} {key : String} {entries : List (String × Option Json)}
  {declared fallback : Option α} {plain : α → Json} {expand : α → Except Failure Json}

def Carries (p : Payload) (entries : List (String × Option Json)) : Prop :=
  ∀ key, p.get? key = (Keyed.get? key entries).join

theorem carries_empty : empty.Carries [] := fun _ => rfl

def sent (declared fallback : Option α) (plain : α → Json) (expand : α → Except Failure Json) :
    Except Failure (Option Json) :=
  match declared <|> fallback with
  | none => .ok none
  | some value => (expand value).map fun expanded =>
      if sends declared.isSome (plain value) (fallback.map plain) expanded then some expanded
      else none

def storing (p : Payload) (key : String) : Option Json → Payload
  | none => p
  | some stored => ⟨Keyed.insert key stored p.members⟩

theorem get?_storing {o : Option Json} {other : String} :
    (p.storing key o).get? other = if key = other then o.or (p.get? other) else p.get? other := by
  cases o with
  | none => simp [storing]
  | some stored => exact Keyed.get?_insert key other stored p.members

theorem putting_eq_storing :
    p.putting key declared fallback plain expand =
      match sent declared fallback plain expand with
      | .ok o => (.ok (), p.storing key o)
      | .error e => (.error e, p) := by
  unfold putting sent
  cases declared <|> fallback with
  | none => rfl
  | some value =>
      dsimp only
      cases expand value with
      | error e => rfl
      | ok expanded =>
          dsimp only [Except.map]
          split <;> rfl

theorem put_eq_storing :
    p.put key declared fallback plain expand =
      (sent declared fallback plain expand).map (p.storing key) := by
  rw [put, putting_eq_storing]
  cases sent declared fallback plain expand <;> rfl

theorem Carries.storing {o : Option Json} (hp : p.Carries entries)
    (hnew : Keyed.get? key entries = none) : (p.storing key o).Carries (entries ++ [(key, o)]) := by
  intro k
  rw [get?_storing, hp, Keyed.get?_append]
  by_cases hk : key = k
  · subst hk
    rw [if_pos rfl, hnew]
    simp [Keyed.get?]
  · rw [if_neg hk]
    simp [Keyed.get?, hk]

def ofEntries (entries : List (String × Option Json)) : Payload :=
  entries.foldl (fun p entry => p.storing entry.1 entry.2) empty

theorem carries_ofEntries (h : (entries.map (·.1)).Nodup) :
    (ofEntries entries).Carries entries := by
  have hrest : ∀ rest done p, Carries p done → ((done ++ rest).map (·.1)).Nodup →
      Carries (rest.foldl (fun p entry => p.storing entry.1 entry.2) p) (done ++ rest) := by
    intro rest
    induction rest with
    | nil =>
        intro done p hp _
        rwa [List.append_nil]
    | cons entry rest ih =>
        intro done p hp hnodup
        have hnew : Keyed.get? entry.1 done = none := by
          rw [Keyed.get?_eq_none_iff]
          rw [List.map_append, List.nodup_append] at hnodup
          exact fun hmem => hnodup.2.2 _ hmem _ List.mem_cons_self rfl
        rw [List.append_cons] at hnodup ⊢
        exact ih _ _ (hp.storing hnew) hnodup
  exact hrest entries [] empty carries_empty h

theorem putPlain_eq :
    p.putPlain key declared none plain =
      .ok (p.storing key ((declared.filter fun value => !(plain value).isZero).map plain)) := by
  rw [Payload.putPlain, put_eq_storing]
  cases declared with
  | none => rfl
  | some value =>
      by_cases hzero : (plain value).isZero <;>
        simp [sent, Except.map, sends, hzero, Option.filter]

theorem putUsual_eq {usual : α} (hsame : (plain usual).same (plain usual) = true)
    (hzero : ∀ value, (plain value).isZero = true → (plain usual).same (plain value) = false) :
    p.putPlain key declared (some usual) plain = .ok (p.storing key (declared.map plain)) := by
  have husual : (plain usual).isZero = false := by
    cases hz : (plain usual).isZero with
    | false => rfl
    | true =>
        have hdiffers := hzero usual hz
        rw [hsame] at hdiffers
        cases hdiffers
  rw [Payload.putPlain, put_eq_storing]
  cases declared with
  | none => simp [sent, Except.map, sends, husual, hsame]
  | some value =>
      cases hz : (plain value).isZero with
      | false => simp [sent, Except.map, sends, hz]
      | true => simp [sent, Except.map, sends, hz, hzero value hz]

theorem putLink_eq {field collection : String} {scope : Scope}
    {project location declared : Option String} :
    p.put key declared none .str (linkOf field collection scope project location) =
      (declared.mapM (Reference.resolve field · collection scope project location)).map
        fun r => p.storing key (r.map (.str ·.relativeLink)) := by
  rw [put_eq_storing]
  cases declared with
  | none => rfl
  | some value =>
      cases hr : Reference.resolve field value collection scope project location with
      | error e => simp [sent, linkOf, hr, Except.map]
      | ok r =>
          have hsent : sends true (Json.str value) none (.str r.relativeLink) = true := by
            simp [sends, Json.isZero, Reference.isEmpty_relativeLink]
          simp [sent, linkOf, hr, Except.map, hsent]

end Payload

namespace Wire

variable {remote : Json} {key : String} {declared : Option String} {r : Option Reference}

theorem string?_of_none (h : remote.get? key = none) : string? remote key = none := by
  rw [string?, h]
  rfl

theorem string?_of_some {text : String} (hfilled : text.isEmpty = false)
    (h : remote.get? key = (filled (some text)).map .str) : string? remote key = some text := by
  simp [string?, h, filled, Option.filter, Json.asStr?, hfilled]

theorem strings_of_none (h : remote.get? key = none) : strings remote key = [] := by
  rw [strings, h]
  rfl

theorem string?_of_text (h : remote.get? key = (filled declared).map .str) :
    string? remote key = filled declared := by
  rw [string?, h, filled]
  cases declared with
  | none => rfl
  | some value => cases hempty : value.isEmpty <;> simp [Option.filter, Json.asStr?, hempty]

theorem string?_of_link (h : remote.get? key = r.map (.str ·.relativeLink)) :
    string? remote key = r.map (·.relativeLink) := by
  rw [string?, h]
  cases r with
  | none => rfl
  | some r => simp [Option.filter, Json.asStr?, Reference.isEmpty_relativeLink]

theorem name_of_link {field collection : String} {scope : Scope} {project location : Option String}
    (hlinked : Reference.Linked (Reference.resolve field · collection scope project location)
      declared r)
    (h : remote.get? key = r.map (.str ·.relativeLink)) :
    (string? remote key).map SelfLink.name = r.map (·.name) := by
  rw [string?_of_link h, Option.map_map]
  cases hlinked with
  | none => rfl
  | some hr => exact congrArg some (Reference.name_relativeLink (Reference.isSegment_of_resolve hr))

end Wire

end Reconcile
