import Reconcile.Proofs.Wire.Put

namespace Reconcile.Payload

structure Call where
  {Value : Type}
  key : String
  declared : Option Value
  fallback : Option Value
  plain : Value → Json
  expand : Value → Except Failure Json

variable {p : Payload} {call other : Call} {calls : List Call} {key : String} {stored : Json}

theorem sends_eq_true_iff {declared : Bool} {raw expanded : Json} {usual : Option Json} :
    sends declared raw usual expanded = true ↔
      (expanded.isZero = true → declared = true ∧ ∃ d ∈ usual, d.same expanded = false) ∧
      (expanded.isZero = false → declared = true ∨ raw.same expanded = false) := by
  unfold sends
  cases expanded.isZero with
  | false => simp
  | true => cases usual <;> simp

namespace Call

def put (call : Call) (p : Payload) : Except Failure Payload :=
  p.put call.key call.declared call.fallback call.plain call.expand

def after (p : Payload) (call : Call) : Payload :=
  (p.putting call.key call.declared call.fallback call.plain call.expand).2

def Sends (call : Call) (stored : Json) : Prop :=
  sent call.declared call.fallback call.plain call.expand = .ok (some stored)

def Silent (call : Call) : Prop := ∀ stored, ¬ call.Sends stored

/-- What it takes to send a value. It is the expansion of what is declared, or else of the default.
An empty one is declared and differs from the default; one that is not declared is not empty, and
differs from the default that it was expanded from. -/
structure Warrants (call : Call) (stored : Json) : Prop where
  expanded : ∃ value, (call.declared <|> call.fallback) = some value ∧
    call.expand value = .ok stored
  cleared : stored.isZero = true → call.declared.isSome ∧
    ∃ usual, call.fallback = some usual ∧ (call.plain usual).same stored = false
  supplied : call.declared = none → stored.isZero = false ∧
    ∃ usual, call.fallback = some usual ∧ (call.plain usual).same stored = false

theorem Sends.after (h : call.Sends stored) (p : Payload) :
    call.after p = p.storing call.key (some stored) := by
  rw [Call.after, putting_eq_storing, h]

theorem Silent.after (h : call.Silent) (p : Payload) : call.after p = p := by
  rw [Call.after, putting_eq_storing]
  cases hsent : sent call.declared call.fallback call.plain call.expand with
  | error e => rfl
  | ok o =>
      cases o with
      | none => rfl
      | some stored => exact absurd hsent (h stored)

theorem sends_or_silent (call : Call) : (∃ stored, call.Sends stored) ∨ call.Silent := by
  by_cases h : ∃ stored, call.Sends stored
  · exact .inl h
  · exact .inr fun stored hsends => h ⟨stored, hsends⟩

theorem Sends.unique {other : Json} (h : call.Sends stored) (h' : call.Sends other) :
    stored = other := by
  simpa [Sends] using h.symm.trans h'

theorem get?_after_eq_some_iff {key : String} :
    (call.after p).get? key = some stored ↔ call.key = key ∧ call.Sends stored ∨
      p.get? key = some stored ∧ (call.key = key → call.Silent) := by
  rcases call.sends_or_silent with ⟨sent, hsends⟩ | hsilent
  · have hloud : ¬ call.Silent := fun hsilent => hsilent sent hsends
    have hsame : sent = stored ↔ call.Sends stored := ⟨fun h => h ▸ hsends, hsends.unique⟩
    rw [hsends.after, get?_storing]
    split
    · next hkey => simp [hkey, hloud, hsame]
    · next hkey => simp [hkey]
  · rw [hsilent.after]
    simp [hsilent, hsilent stored]

theorem sends_iff_rule :
    call.Sends stored ↔ ∃ value, (call.declared <|> call.fallback) = some value ∧
      call.expand value = .ok stored ∧
      sends call.declared.isSome (call.plain value) (call.fallback.map call.plain) stored =
        true := by
  unfold Sends sent
  cases call.declared <|> call.fallback with
  | none => simp
  | some value =>
      simp only [map_eq_ok_iff, Option.some.injEq, exists_eq_left', ite_eq_iff, reduceCtorEq,
        and_false, or_false]
      constructor
      · rintro ⟨expanded, hexpand, hsends, rfl⟩
        exact ⟨hexpand, hsends⟩
      · rintro ⟨hexpand, hsends⟩
        exact ⟨stored, hexpand, hsends, rfl⟩

theorem sends_iff_warrants : call.Sends stored ↔ call.Warrants stored := by
  rw [sends_iff_rule]
  constructor
  · rintro ⟨value, hvalue, hexpand, hsends⟩
    obtain ⟨hempty, hfull⟩ := sends_eq_true_iff.1 hsends
    refine ⟨⟨value, hvalue, hexpand⟩, ?_, ?_⟩
    · intro hzero
      obtain ⟨hdeclared, _, husual, hdiffers⟩ := hempty hzero
      obtain ⟨usual, hfallback, rfl⟩ := Option.map_eq_some_iff.1 husual
      exact ⟨hdeclared, usual, hfallback, hdiffers⟩
    · intro hnone
      rw [hnone] at hvalue hempty hfull
      have hzero : stored.isZero = false := by
        rw [Bool.eq_false_iff]
        intro hzero
        cases (hempty hzero).1
      exact ⟨hzero, value, hvalue, (hfull hzero).resolve_left Bool.false_ne_true⟩
  · rintro ⟨⟨value, hvalue, hexpand⟩, hcleared, hsupplied⟩
    refine ⟨value, hvalue, hexpand, sends_eq_true_iff.2 ⟨?_, ?_⟩⟩
    · intro hzero
      obtain ⟨hdeclared, usual, hfallback, hdiffers⟩ := hcleared hzero
      exact ⟨hdeclared, call.plain usual, by rw [hfallback]; rfl, hdiffers⟩
    · intro _
      cases hdeclared : call.declared with
      | some _ => exact .inl rfl
      | none =>
          obtain ⟨_, usual, hfallback, hdiffers⟩ := hsupplied hdeclared
          rw [hdeclared, hfallback] at hvalue
          cases hvalue
          exact .inr hdiffers

theorem sends_of_declared {value : call.Value} (hdeclared : call.declared = some value)
    (hexpand : call.expand value = .ok stored) (hfull : stored.isZero = false) :
    call.Sends stored := by
  rw [sends_iff_warrants]
  refine ⟨⟨value, by rw [hdeclared]; rfl, hexpand⟩, ?_, ?_⟩
  · intro hzero
    rw [hfull] at hzero
    cases hzero
  · intro hnone
    rw [hdeclared] at hnone
    cases hnone

theorem put_of_expand_error {value : call.Value} {e : Failure}
    (hvalue : (call.declared <|> call.fallback) = some value)
    (hexpand : call.expand value = .error e) : call.put p = .error e ∧ call.after p = p := by
  have hsent : sent call.declared call.fallback call.plain call.expand = .error e := by
    rw [sent, hvalue]
    exact map_eq_error_iff.2 hexpand
  exact ⟨put_error hvalue hexpand, by rw [Call.after, putting_eq_storing, hsent]⟩

end Call

def run (calls : List Call) (p : Payload) : Payload := calls.foldl Call.after p

/-- Of the puts on this key, the last one that sends anything is this, and this is what it sends. -/
def LastSent (calls : List Call) (key : String) (call : Call) (stored : Json) : Prop :=
  ∃ earlier later, calls = earlier ++ call :: later ∧ call.key = key ∧ call.Sends stored ∧
    ∀ other ∈ later, other.key = key → other.Silent

theorem lastSent_cons {first : Call} {rest : List Call} :
    LastSent (first :: rest) key call stored ↔ LastSent rest key call stored ∨
      first = call ∧ call.key = key ∧ call.Sends stored ∧
        ∀ other ∈ rest, other.key = key → other.Silent := by
  constructor
  · rintro ⟨earlier, later, hcalls, hlast⟩
    cases earlier with
    | nil =>
        obtain ⟨rfl, rfl⟩ := List.cons.inj hcalls
        exact .inr ⟨rfl, hlast⟩
    | cons _ earlier =>
        obtain ⟨_, rfl⟩ := List.cons.inj hcalls
        exact .inl ⟨earlier, later, rfl, hlast⟩
  · rintro (⟨earlier, later, rfl, hlast⟩ | ⟨rfl, hlast⟩)
    · exact ⟨first :: earlier, later, rfl, hlast⟩
    · exact ⟨[], rest, rfl, hlast⟩

theorem get?_run_eq_none_iff :
    (run calls p).get? key = none ↔
      p.get? key = none ∧ ∀ call ∈ calls, call.key = key → call.Silent := by
  induction calls generalizing p with
  | nil => simp [run]
  | cons first rest ih =>
      have hrun : run (first :: rest) p = run rest (first.after p) := rfl
      rw [hrun, ih, List.forall_mem_cons]
      rcases first.sends_or_silent with ⟨sent, hsends⟩ | hsilent
      · have hloud : ¬ first.Silent := fun hsilent => hsilent sent hsends
        rw [hsends.after, get?_storing]
        split
        · next hkey => simp [hkey, hloud]
        · next hkey => simp [hkey]
      · rw [hsilent.after]
        simp [hsilent]

theorem get?_run_eq_some_iff :
    (run calls p).get? key = some stored ↔ (∃ call, LastSent calls key call stored) ∨
      p.get? key = some stored ∧ ∀ call ∈ calls, call.key = key → call.Silent := by
  induction calls generalizing p with
  | nil => simp [run, LastSent]
  | cons first rest ih =>
      have hrun : run (first :: rest) p = run rest (first.after p) := rfl
      rw [hrun, ih]
      simp only [lastSent_cons, Call.get?_after_eq_some_iff, exists_or, exists_eq_left', or_assoc,
        List.forall_mem_cons, or_and_right, and_assoc]

/-- After any puts on an empty payload a key has what was sent last under it, and nothing if no put
sent anything. A value is sent exactly if it is warranted. So a declared one that is not empty once
it is expanded is stored; and a put whose expansion fails leaves the payload as it was. -/
theorem run_stores_last_sent (calls : List Call) :
    (∀ key stored, (run calls empty).get? key = some stored ↔
      ∃ call, LastSent calls key call stored) ∧
    (∀ key, (run calls empty).get? key = none ↔
      ∀ call ∈ calls, call.key = key → call.Silent) ∧
    (∀ call : Call, ∀ stored, call.Sends stored ↔ call.Warrants stored) ∧
    (∀ call : Call, ∀ value stored p, call.declared = some value → call.expand value = .ok stored →
      stored.isZero = false → (call.after p).get? call.key = some stored) ∧
    ∀ call : Call, ∀ value e p, (call.declared <|> call.fallback) = some value →
      call.expand value = .error e → call.put p = .error e ∧ call.after p = p := by
  have hempty : ∀ key, empty.get? key = none := fun _ => rfl
  refine ⟨?_, ?_, fun _ _ => Call.sends_iff_warrants, ?_,
    fun _ _ _ _ => Call.put_of_expand_error⟩
  · intro key stored
    simp [get?_run_eq_some_iff, hempty]
  · intro key
    simp [get?_run_eq_none_iff, hempty]
  · intro call value stored p hdeclared hexpand hfull
    rw [(Call.sends_of_declared hdeclared hexpand hfull).after, get?_storing, if_pos rfl]
    rfl

example (e : Failure) :
    run [⟨"priority", some 800, some 1000, .int, .ok ∘ .int⟩,
        ⟨"priority", some 0, some 1000, .int, .ok ∘ .int⟩,
        ⟨"priority", some 900, some 1000, .int, fun _ => .error e⟩] empty =
      ⟨[("priority", .int 0)]⟩ := by
  rfl

end Reconcile.Payload
