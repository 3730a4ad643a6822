import Reconcile.Kind
import Reconcile.SelfLink

namespace Reconcile

structure Route where
  name : String
  destRange : String
  network : String
  description : Option String
  nextHopIp : Option String
  nextHopInstance : Option String
  nextHopInstanceZone : Option String
  nextHopGateway : Option String
  nextHopNetwork : Option String
  priority : Option Int
  tags : List String
  project : Option String
  selfLink : Option String
  deriving DecidableEq, Repr

namespace Route

def blank : Route :=
  ⟨"", "", "", none, none, none, none, none, none, none, [], none, none⟩

def insertTag (tag : String) : List String → List String
  | [] => [tag]
  | t :: ts =>
      if tag = t then t :: ts
      else if tag < t then tag :: t :: ts
      else t :: insertTag tag ts

def tagSet (tags : List String) : List String := tags.foldr insertTag []

theorem mem_insertTag {tag t : String} {tags : List String} :
    t ∈ insertTag tag tags ↔ t = tag ∨ t ∈ tags := by
  induction tags with
  | nil => simp [insertTag]
  | cons u us ih =>
      unfold insertTag
      split
      · next h => subst h; simp
      · split
        · simp
        · simp only [List.mem_cons, ih]
          grind

theorem mem_tagSet {t : String} {tags : List String} : t ∈ tagSet tags ↔ t ∈ tags := by
  induction tags with
  | nil => simp [tagSet]
  | cons u us ih =>
      simp only [tagSet, List.foldr_cons, List.mem_cons, mem_insertTag]
      rw [← ih]
      simp [tagSet]

def fields : List (Field Route) := [
  .text "name" (·.name) fun v r => { r with name := v },
  .text "dest_range" (·.destRange) fun v r => { r with destRange := v },
  .text "network" (·.network) fun v r => { r with network := v },
  .optionalText "description" (·.description) fun v r => { r with description := v },
  .optionalText "next_hop_ip" (·.nextHopIp) fun v r => { r with nextHopIp := v },
  .optionalText "next_hop_instance" (·.nextHopInstance) fun v r =>
    { r with nextHopInstance := v },
  .optionalText "next_hop_instance_zone" (·.nextHopInstanceZone) fun v r =>
    { r with nextHopInstanceZone := v },
  .optionalText "next_hop_gateway" (·.nextHopGateway) fun v r => { r with nextHopGateway := v },
  .optionalText "next_hop_network" (·.nextHopNetwork) fun v r => { r with nextHopNetwork := v },
  .optionalSigned "priority" (·.priority) fun v r => { r with priority := v },
  .texts "tags" (·.tags) fun v r => { r with tags := tagSet v },
  .optionalText "project" (·.project) fun v r => { r with project := v },
  .optionalText "self_link" (·.selfLink) fun v r => { r with selfLink := v }]

def usualPriority : Int := 1000

def nextHops (r : Route) : List String :=
  [("next_hop_ip", r.nextHopIp), ("next_hop_instance", r.nextHopInstance),
    ("next_hop_gateway", r.nextHopGateway), ("next_hop_network", r.nextHopNetwork)].filterMap
    fun (field, value) => if value.any (!·.isEmpty) then some field else none

def checkHops (r : Route) : Except Failure Unit :=
  match r.nextHops with
  | [_] => .ok ()
  | [] => .error (.invalid "next_hop_*" .noNextHop)
  | fields => .error (.invalid "next_hop_*" (.manyNextHops fields))

def checkPriority : Option Int → Except Failure Unit
  | some n =>
      if 0 ≤ n ∧ n ≤ 65535 then .ok () else .error (.invalid "priority" (.priorityRange n))
  | none => .ok ()

def validate (r : Route) : Except Failure Unit := do
  if r.destRange.isEmpty then throw (.invalid "dest_range" .required)
  if r.network.isEmpty then throw (.invalid "network" .required)
  checkPriority r.priority
  r.checkHops

def identity (r : Route) (c : Context) : Except Failure Fields := do
  if r.name.isEmpty then throw (.invalid "name" .required)
  let project ← projectOf r.project c
  pure (Keyed.ofList [("project", project), ("name", r.name)])

def tagsJson (tags : List String) : Json := .arr (tags.map .str)

def expand (r : Route) (c : Context) : Except Failure Payload := do
  r.validate
  let identity ← r.identity c
  let project := Keyed.get? "project" identity
  let zone := r.nextHopInstanceZone <|> c.zone
  let p := Payload.empty
  let p ← p.putPlain "name" (some r.name) none .str
  let p ← p.putPlain "description" r.description none .str
  let p ← p.putPlain "destRange" (some r.destRange) none .str
  let p ← p.put "network" (some r.network) none .str
    (linkOf "network" "networks" .global project none)
  let p ← p.putPlain "nextHopIp" r.nextHopIp none .str
  let p ← p.put "nextHopInstance" r.nextHopInstance none .str
    (linkOf "next_hop_instance" "instances" .zonal project zone)
  let p ← p.put "nextHopGateway" r.nextHopGateway none .str
    (linkOf "next_hop_gateway" "gateways" .global project none)
  let p ← p.put "nextHopNetwork" r.nextHopNetwork none .str
    (linkOf "next_hop_network" "networks" .global project none)
  let p ← p.putPlain "priority" r.priority (some usualPriority) .int
  p.putPlain "tags" ((some r.tags).filter (!·.isEmpty)) none tagsJson

def zoneOfInstance? (link : String) : Option String :=
  match Reference.resolve "next_hop_instance" link "instances" .zonal none none with
  | .ok r => r.location
  | .error _ => none

def flatten (remote : Json) (identity : Fields) : Route :=
  let hop := Wire.string? remote "nextHopInstance"
  { name := (Wire.string? remote "name" <|> Keyed.get? "name" identity).getD ""
    destRange := (Wire.string? remote "destRange").getD ""
    network := ((Wire.string? remote "network").map SelfLink.name).getD ""
    description := Wire.string? remote "description"
    nextHopIp := Wire.string? remote "nextHopIp"
    nextHopInstance := hop.map SelfLink.name
    nextHopInstanceZone := hop.bind zoneOfInstance?
    nextHopGateway := (Wire.string? remote "nextHopGateway").map SelfLink.name
    nextHopNetwork := (Wire.string? remote "nextHopNetwork").map SelfLink.name
    priority := Wire.int? remote "priority"
    tags := tagSet (Wire.strings remote "tags")
    project := Keyed.get? "project" identity
    selfLink := (Wire.string? remote "selfLink").map SelfLink.firstVersion }

def seed (identity : Fields) : Route :=
  { blank with
    name := (Keyed.get? "name" identity).getD ""
    project := Keyed.get? "project" identity }

def kind : Kind Route where
  name := "Route"
  id := ⟨"{project}/{name}"⟩
  collectionPath := ⟨"projects/{project}/global/routes"⟩
  selfPath := ⟨"projects/{project}/global/routes/{name}"⟩
  importPatterns := [
    "projects/(?P<project>[^/]+)/global/routes/(?P<name>[^/]+)",
    "(?P<project>[^/]+)/(?P<name>[^/]+)",
    "(?P<name>[^/]+)"]
  createTimeout := Duration.ofSecs 120
  deleteTimeout := Duration.ofSecs 120
  minPollInterval := Duration.ofSecs 1
  stateName := "RouteState"
  fields
  initial := blank
  identity
  expand
  flatten
  seed

end Route

end Reconcile
