import Reconcile.Ambient.Gcloud
import Reconcile.Json.Reader

namespace Reconcile

structure Settings where
  project : Option String
  region : Option String
  zone : Option String
  computeEndpoint : Option String
  operationTimeoutSecs : Option Nat
  pollIntervalMs : Option Nat
  deriving DecidableEq, Repr

namespace Settings

def blank : Settings := ⟨none, none, none, none, none, none⟩

def fields : List (Field Settings) := [
  .optionalText "project" (·.project) fun v s => { s with project := v },
  .optionalText "region" (·.region) fun v s => { s with region := v },
  .optionalText "zone" (·.zone) fun v s => { s with zone := v },
  .optionalText "compute_endpoint" (·.computeEndpoint) fun v s =>
    { s with computeEndpoint := v },
  .optionalUnsigned "operation_timeout_secs" (·.operationTimeoutSecs) fun v s =>
    { s with operationTimeoutSecs := v },
  .optionalUnsigned "poll_interval_ms" (·.pollIntervalMs) fun v s =>
    { s with pollIntervalMs := v }]

def isKnown (key : String) : Bool := fields.any (·.name == key)

def isPlain : Json.Tree → Bool
  | .obj members =>
      let keys := (members.map (·.1)).filter isKnown
      keys.eraseDups.length == keys.length
  | _ => true

def ofText? (content : List Char) : Option Settings :=
  match Json.tree? content with
  | none => none
  | some tree =>
      if isPlain tree then (Decode.record "Settings" fields blank tree.value).toOption else none

def path? (a : Ambient) : Option String :=
  a.configDir?.map fun directory =>
    Ambient.child (Ambient.child directory "gcpsync") "config.json"

def unread (path : String) : LogLine := ⟨.warn, "Failed to read config " ++ Text.quoted path⟩

def malformed (path : String) : LogLine :=
  ⟨.warn, "Ignoring malformed config " ++ Text.quoted path⟩

def ofFile (a : Ambient) (path : String) : Settings × List LogLine :=
  match a.read path with
  | .missing => (blank, [])
  | .unreadable => (blank, [unread path])
  | .bytes content =>
      match Text.Utf8.decode? content with
      | none => (blank, [unread path])
      | some text =>
          match ofText? text with
          | none => (blank, [malformed path])
          | some s => (s, [])

def load (a : Ambient) : Settings × List LogLine :=
  match path? a with
  | some path => ofFile a path
  | none => (blank, [])

def operationTimeout (s : Settings) : Option Duration :=
  s.operationTimeoutSecs.map Duration.ofSecs

def pollInterval (s : Settings) : Option Duration := s.pollIntervalMs.map Duration.ofMillis

def defaults (s : Settings) (a : Ambient) (said : Defaults) : Defaults where
  project := said.project <|> s.project <|> a.defaultProject.1
  region := said.region <|> s.region <|> a.defaultRegion.1
  zone := said.zone <|> s.zone <|> a.defaultZone.1

def context (s : Settings) (defaults : Defaults) : Context :=
  let c := Context.ofDefaults defaults
  let c := match s.computeEndpoint with
    | some endpoint => c.withEndpoint endpoint
    | none => c
  { c with operationTimeout := s.operationTimeout, pollInterval := s.pollInterval }

end Settings

end Reconcile
