import Reconcile.ImportId
import Reconcile.Invocation
import Reconcile.Network.Address
import Reconcile.Network.Route
import Reconcile.Proofs.Template.Spelling

namespace Reconcile

namespace ImportId

variable {patterns : List String} {id : String} {defaults fields identity : Fields} {s : Session}
  {forms : List Form} {f : Form} {t : Template} {given : List String}

def Form.names (f : Form) : List String := f.compiled.names.map (·.1)

theorem Form.match?_covers (hnames : ∀ name ∈ f.names, name ∈ t.names)
    (h : f.match? id = some fields) : t.Covers fields := by
  unfold Form.match? at h
  obtain ⟨c, hc, rfl⟩ := Option.map_eq_some_iff.1 h
  refine ⟨Keyed.ascending_ofList _, ?_⟩
  intro e he
  obtain ⟨⟨name, index⟩, hentry, hcaptured⟩ := List.mem_filterMap.1 (Keyed.mem_ofList he)
  obtain ⟨text, _, rfl⟩ := Option.map_eq_some_iff.1 hcaptured
  exact hnames name (List.mem_map_of_mem hentry)

theorem firstMatch?_covers (hnames : ∀ f ∈ forms, ∀ name ∈ f.names, name ∈ t.names)
    (h : firstMatch? id forms = some (f, fields)) : t.Covers fields := by
  induction forms with
  | nil => cases h
  | cons g rest ih =>
      unfold firstMatch? at h
      split at h
      · next fields' hmatch =>
          cases h
          exact Form.match?_covers (hnames f List.mem_cons_self) hmatch
      · exact ih (fun f hf => hnames f (List.mem_cons_of_mem g hf)) h

theorem fill_covers (hnames : ∀ name ∈ given, name ∈ t.names) (h : t.Covers fields) :
    t.Covers (fill defaults fields given) := by
  induction given generalizing fields with
  | nil => exact h
  | cons name rest ih =>
      have hrest := fun n hn => hnames n (List.mem_cons_of_mem name hn)
      unfold fill
      split
      · refine ih hrest ⟨h.ascending.insert, ?_⟩
        intro e he
        rcases Keyed.mem_insert he with rfl | he
        · exact hnames name List.mem_cons_self
        · exact h.named e he
      · exact ih hrest h

theorem resolve_covers (hforms : patterns.mapM form = .ok forms)
    (hnames : ∀ f ∈ forms, ∀ name ∈ f.names, name ∈ t.names)
    (h : (resolve id patterns defaults s).1 = .ok identity) : t.Covers identity := by
  rw [resolve, resolveWith] at h
  rw [hforms] at h
  simp only at h
  split at h
  · cases h
  · next f fields hmatch =>
      cases h
      apply fill_covers
      · intro name hname
        obtain ⟨f, hf, hname⟩ := List.mem_flatMap.1 hname
        exact hnames f hf name hname
      · exact firstMatch?_covers hnames hmatch

end ImportId

def Kind.importsFields {σ : Type} (k : Kind σ) : Bool :=
  match k.importPatterns.mapM ImportId.form with
  | .ok forms => forms.all fun f => f.names.all k.id.names.contains
  | .error _ => true

theorem ImportId.resolve_covers_id {σ : Type} {k : Kind σ} (hk : k.importsFields = true)
    {id : String} {defaults identity : Fields} {s : Session}
    (h : (resolve id k.importPatterns defaults s).1 = .ok identity) : k.id.Covers identity := by
  unfold Kind.importsFields at hk
  cases hforms : k.importPatterns.mapM form with
  | error e =>
      simp only [resolve, resolveWith, hforms] at h
      cases h
  | ok forms =>
      rw [hforms] at hk
      apply resolve_covers hforms _ h
      intro f hf name hname
      have hall := List.all_eq_true.1 hk f hf
      simpa using List.all_eq_true.1 hall name hname

/-- The ids of a kind can be read back: slashes stand between their fields, and an identity has
these fields and no others, enough for the path of the object. -/
structure Kind.Regular {σ : Type} (k : Kind σ) : Prop where
  valid : k.id.Valid
  separated : Template.Separated false k.id.segments
  located : ∀ name ∈ k.selfPath.names, name ∈ k.id.names
  declared : ∀ {state : σ} {c : Context} {identity : Fields},
    k.identity state c = .ok identity → k.id.Covers identity
  adopted : ∀ {id : String} {defaults identity : Fields} {s : Session},
    (ImportId.resolve id k.importPatterns defaults s).1 = .ok identity → k.id.Covers identity

theorem Template.covers_ofList {t : Template} {fields : Fields}
    (h : ∀ e ∈ fields, e.1 ∈ t.names) : t.Covers (Keyed.ofList fields) :=
  ⟨Keyed.ascending_ofList fields, fun e he => h e (Keyed.mem_ofList he)⟩

theorem Address.identity_eq_ok_iff {a : Address} {c : Context} {identity : Fields} :
    a.identity c = .ok identity ↔ isName a.name.toList = true ∧
      ∃ project region, projectOf a.project c = .ok project ∧ regionOf a c = .ok region ∧
        identity = Keyed.ofList [("project", project), ("region", region), ("name", a.name)] := by
  unfold Address.identity
  dsimp only
  split
  · next hname =>
    constructor
    · intro h
      cases h
    · rintro ⟨hvalid, _⟩
      rw [hvalid] at hname
      cases hname
  · next hname =>
    simp only [bind_eq_ok_iff, pure, Except.pure, Except.ok.injEq]
    constructor
    · rintro ⟨project, hproject, region, hregion, rfl⟩
      exact ⟨by simpa using hname, project, region, hproject, hregion, rfl⟩
    · rintro ⟨_, project, region, hproject, hregion, rfl⟩
      exact ⟨project, hproject, region, hregion, rfl⟩

theorem Address.identity_eq_ok {a : Address} {c : Context} {identity : Fields}
    (h : a.identity c = .ok identity) :
    ∃ project region, projectOf a.project c = .ok project ∧ regionOf a c = .ok region ∧
      identity = Keyed.ofList [("project", project), ("region", region), ("name", a.name)] :=
  (identity_eq_ok_iff.1 h).2

theorem Route.identity_eq_ok_iff {r : Route} {c : Context} {identity : Fields} :
    r.identity c = .ok identity ↔ r.name.isEmpty = false ∧
      ∃ project, projectOf r.project c = .ok project ∧
        identity = Keyed.ofList [("project", project), ("name", r.name)] := by
  unfold Route.identity
  dsimp only
  split
  · next hname =>
    constructor
    · intro h
      cases h
    · rintro ⟨hfilled, _⟩
      rw [hfilled] at hname
      cases hname
  · next hname =>
    simp only [bind_eq_ok_iff, pure, Except.pure, Except.ok.injEq]
    constructor
    · rintro ⟨project, hproject, rfl⟩
      exact ⟨by simpa using hname, project, hproject, rfl⟩
    · rintro ⟨_, project, hproject, rfl⟩
      exact ⟨project, hproject, rfl⟩

theorem Route.identity_eq_ok {r : Route} {c : Context} {identity : Fields}
    (h : r.identity c = .ok identity) :
    ∃ project, projectOf r.project c = .ok project ∧
      identity = Keyed.ofList [("project", project), ("name", r.name)] :=
  (identity_eq_ok_iff.1 h).2

theorem Address.names_id : Address.kind.id.names = ["project", "region", "name"] := by
  decide +kernel

theorem Route.names_id : Route.kind.id.names = ["project", "name"] := by
  decide +kernel

theorem Address.kind_regular : Address.kind.Regular where
  valid := by decide +kernel
  separated := by decide +kernel
  located := by decide +kernel
  declared := by
    intro state c identity h
    obtain ⟨project, region, _, _, rfl⟩ := Address.identity_eq_ok h
    apply Template.covers_ofList
    simp [Address.names_id]
  adopted := ImportId.resolve_covers_id (by decide +kernel)

theorem Route.kind_regular : Route.kind.Regular where
  valid := by decide +kernel
  separated := by decide +kernel
  located := by decide +kernel
  declared := by
    intro state c identity h
    obtain ⟨project, _, rfl⟩ := Route.identity_eq_ok h
    apply Template.covers_ofList
    simp [Route.names_id]
  adopted := ImportId.resolve_covers_id (by decide +kernel)

namespace Family

def State : Family → Type
  | .address => Address
  | .route => Route

def kind : (f : Family) → Kind f.State
  | .address => Address.kind
  | .route => Route.kind

theorem kind_regular : (f : Family) → f.kind.Regular
  | .address => Address.kind_regular
  | .route => Route.kind_regular

end Family

end Reconcile
