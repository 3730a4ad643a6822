import Reconcile.Failure
import Reconcile.Url.Basic

namespace Reconcile

inductive Scope where
  | project
  | global
  | regional
  | zonal
  deriving DecidableEq, Repr

structure Reference where
  project : String
  location : Option String
  collection : String
  name : String
  scope : Scope
  deriving DecidableEq, Repr

namespace Reference

def places : Scope → String
  | .zonal => "zones"
  | .regional => "regions"
  | .global => "global"
  | .project => ""

def relativeLink (r : Reference) : String :=
  match r.scope, r.location with
  | .project, _ => "projects/" ++ r.project ++ "/" ++ r.collection ++ "/" ++ r.name
  | .global, _ => "projects/" ++ r.project ++ "/global/" ++ r.collection ++ "/" ++ r.name
  | scope, some location =>
      "projects/" ++ r.project ++ "/" ++ places scope ++ "/" ++ location ++ "/" ++
        r.collection ++ "/" ++ r.name
  | _, none => "projects/" ++ r.project ++ "/" ++ r.collection ++ "/" ++ r.name

def shapes (collection : String) : Scope → List String
  | .project => ["projects/{project}/" ++ collection ++ "/{name}", "{name}"]
  | .global =>
      ["projects/{project}/global/" ++ collection ++ "/{name}",
        "global/" ++ collection ++ "/{name}", "{name}"]
  | .regional =>
      ["projects/{project}/regions/{region}/" ++ collection ++ "/{name}",
        "regions/{region}/" ++ collection ++ "/{name}", "{name}"]
  | .zonal =>
      ["projects/{project}/zones/{zone}/" ++ collection ++ "/{name}",
        "zones/{zone}/" ++ collection ++ "/{name}", "{name}"]

def isUrl (value : List Char) : Bool :=
  "https://".toList.isPrefixOf value || "http://".toList.isPrefixOf value

def stripUrl (field value : String) : Except Failure (List Char) :=
  if isUrl value.toList then
    match Url.parse value with
    | .error e => .error (.invalid field (.badUrl value e))
    | .ok url =>
        match Text.cut? "/projects/".toList url.pathText with
        | some (_, rest) => .ok (Text.dropEndWhile (· == '/') ("projects/".toList ++ rest))
        | none =>
            .error (.invalidReference field value "a URL containing projects/{project}/...")
  else .ok value.toList

structure Parts where
  project : Option String
  location : Option String
  name : String
  deriving DecidableEq, Repr

def parts? (collection : String) (scope : Scope) : List String → Option Parts
  | [name] => some ⟨none, none, name⟩
  | ["projects", project, c, name] =>
      if scope = .project ∧ c = collection then some ⟨some project, none, name⟩ else none
  | [a, b, name] =>
      if scope = .global ∧ a = "global" ∧ b = collection then some ⟨none, none, name⟩ else none
  | [a, b, c, name] =>
      if (scope = .regional ∨ scope = .zonal) ∧ a = places scope ∧ c = collection then
        some ⟨none, some b, name⟩
      else none
  | ["projects", project, a, b, name] =>
      if scope = .global ∧ a = "global" ∧ b = collection then some ⟨some project, none, name⟩
      else none
  | ["projects", project, a, location, c, name] =>
      if (scope = .regional ∨ scope = .zonal) ∧ a = places scope ∧ c = collection then
        some ⟨some project, some location, name⟩
      else none
  | _ => none

def place (field value : String) (scope : Scope) (said fallback : Option String) :
    Except Failure (Option String) :=
  match scope with
  | .project => .ok none
  | .global => .ok none
  | .regional =>
      match said <|> fallback with
      | some location => .ok (some location)
      | none => .error (.invalid field (.unplaced value "region"))
  | .zonal =>
      match said <|> fallback with
      | some location => .ok (some location)
      | none => .error (.invalid field (.unplaced value "zone"))

def resolve (field value collection : String) (scope : Scope) (project location : Option String) :
    Except Failure Reference := do
  let relative ← stripUrl field value
  let segments := (Text.splitOn '/' relative).map String.ofList
  let invalid : Failure :=
    .invalidReference field value (", ".intercalate (shapes collection scope))
  if segments.any (·.isEmpty) then throw invalid
  match parts? collection scope segments with
  | none => throw invalid
  | some parts =>
      match parts.project <|> project with
      | none => throw (.invalid field (.unplaced value "project"))
      | some project => do
          let location ← place field value scope parts.location location
          pure { project, location, collection, name := parts.name, scope }

end Reference

end Reconcile
