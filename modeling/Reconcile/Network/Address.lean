import Reconcile.Kind
import Reconcile.SelfLink

namespace Reconcile

structure Address where
  name : String
  address : Option String
  addressType : Option String
  description : Option String
  networkTier : Option String
  region : Option String
  subnetwork : Option String
  project : Option String
  creationTimestamp : Option String
  users : List String
  selfLink : Option String
  deriving DecidableEq, Repr

namespace Address

def blank : Address := ⟨"", none, none, none, none, none, none, none, none, [], none⟩

def fields : List (Field Address) := [
  .text "name" (·.name) fun v a => { a with name := v },
  .optionalText "address" (·.address) fun v a => { a with address := v },
  .optionalText "address_type" (·.addressType) fun v a => { a with addressType := v },
  .optionalText "description" (·.description) fun v a => { a with description := v },
  .optionalText "network_tier" (·.networkTier) fun v a => { a with networkTier := v },
  .optionalText "region" (·.region) fun v a => { a with region := v },
  .optionalText "subnetwork" (·.subnetwork) fun v a => { a with subnetwork := v },
  .optionalText "project" (·.project) fun v a => { a with project := v },
  .optionalText "creation_timestamp" (·.creationTimestamp) fun v a =>
    { a with creationTimestamp := v },
  .texts "users" (·.users) fun v a => { a with users := v },
  .optionalText "self_link" (·.selfLink) fun v a => { a with selfLink := v }]

def usualType : String := "EXTERNAL"

def types : List String := ["INTERNAL", "EXTERNAL", ""]

def tiers : List String := ["PREMIUM", "STANDARD", ""]

def isNameChar (c : Char) : Bool := isLowerOrDigit c || c == '-'

def isName (name : List Char) : Bool :=
  match name with
  | [] => false
  | c :: cs =>
      ('a' ≤ c && c ≤ 'z') && cs.length ≤ 62 && cs.all isNameChar &&
        (c :: cs).getLast? != some '-'

def regionOf (a : Address) (c : Context) : Except Failure String :=
  match a.region.map SelfLink.name <|> c.region with
  | some region => .ok region
  | none => .error (.invalid "region" (.undeclared "region"))

def identity (a : Address) (c : Context) : Except Failure Fields := do
  if !isName a.name.toList then throw (.invalid "name" (.badName a.name))
  let project ← projectOf a.project c
  let region ← regionOf a c
  pure (Keyed.ofList [("project", project), ("region", region), ("name", a.name)])

def oneOf (field : String) (value : Option String) (allowed : List String) :
    Except Failure Unit :=
  match value with
  | some v => if allowed.contains v then .ok () else .error (.invalid field (.notOneOf v allowed))
  | none => .ok ()

def expand (a : Address) (c : Context) : Except Failure Payload := do
  oneOf "address_type" a.addressType types
  oneOf "network_tier" a.networkTier tiers
  let identity ← a.identity c
  let project := Keyed.get? "project" identity
  let region := Keyed.get? "region" identity
  let p := Payload.empty
  let p ← p.putPlain "address" a.address none .str
  let p ← p.putPlain "addressType" a.addressType (some usualType) .str
  let p ← p.putPlain "description" a.description none .str
  let p ← p.putPlain "name" (some a.name) none .str
  let p ← p.putPlain "networkTier" a.networkTier none .str
  let p ← p.put "subnetwork" a.subnetwork none .str
    (linkOf "subnetwork" "subnetworks" .regional project region)
  p.put "region" a.region none .str (linkOf "region" "regions" .project project none)

def flattenType (value : Option Json) : String :=
  ((value.bind Json.asStr?).filter (!·.isEmpty)).getD usualType

def flatten (remote : Json) (identity : Fields) : Address where
  name := (Wire.string? remote "name" <|> Keyed.get? "name" identity).getD ""
  address := Wire.string? remote "address"
  addressType := some (flattenType (remote.get? "addressType"))
  description := Wire.string? remote "description"
  networkTier := Wire.string? remote "networkTier"
  region := (Wire.string? remote "region").map SelfLink.name <|> Keyed.get? "region" identity
  subnetwork := (Wire.string? remote "subnetwork").map SelfLink.name
  project := Keyed.get? "project" identity
  creationTimestamp := Wire.string? remote "creationTimestamp"
  users := Wire.strings remote "users"
  selfLink := (Wire.string? remote "selfLink").map SelfLink.firstVersion

def seed (identity : Fields) : Address :=
  { blank with
    name := (Keyed.get? "name" identity).getD ""
    project := Keyed.get? "project" identity
    region := Keyed.get? "region" identity }

def kind : Kind Address where
  name := "Address"
  id := ⟨"{project}/{region}/{name}"⟩
  collectionPath := ⟨"projects/{project}/regions/{region}/addresses"⟩
  selfPath := ⟨"projects/{project}/regions/{region}/addresses/{name}"⟩
  importPatterns := [
    "projects/(?P<project>[^/]+)/regions/(?P<region>[^/]+)/addresses/(?P<name>[^/]+)",
    "(?P<project>[^/]+)/(?P<region>[^/]+)/(?P<name>[^/]+)",
    "(?P<name>[^/]+)"]
  createTimeout := Duration.ofSecs 240
  deleteTimeout := Duration.ofSecs 240
  minPollInterval := Duration.ofSecs 2
  stateName := "AddressState"
  fields
  initial := blank
  identity
  expand
  flatten
  seed

end Address

end Reconcile
