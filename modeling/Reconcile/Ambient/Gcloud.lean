import Reconcile.Ambient.Basic
import Reconcile.Ambient.Properties
import Reconcile.Session
import Reconcile.Zone

namespace Reconcile.Ambient

abbrev Found := Option String × List LogLine

def gcloudDir? (a : Ambient) : Option String :=
  match a.lookup? "CLOUDSDK_CONFIG" with
  | some directory => some directory
  | none => a.configDir?.map (child · "gcloud")

def isConfigurationChar (c : Char) : Bool := c.isAlphanum || c == '-' || c == '_'

def activeConfiguration? (a : Ambient) (directory : String) : Option (Except Unit String) :=
  (a.read (child directory "active_config")).text?.map fun content =>
    let name := Properties.trim content
    if name.all isConfigurationChar then .ok (String.ofList name) else .error ()

def configurationPath (directory name : String) : String :=
  child (child directory "configurations") ("config_" ++ name)

def valueIn? (a : Ambient) (path part key : String) : Option String :=
  (a.read path).text?.bind (Properties.value? part key)

def badConfiguration : LogLine := ⟨.warn, "Invalid characters in active_config name"⟩

def property? (a : Ambient) (part key : String) : Found :=
  match a.gcloudDir? with
  | none => (none, [])
  | some directory =>
      let common := a.valueIn? (child directory "properties") part key
      match a.activeConfiguration? directory with
      | none => (common, [])
      | some (.error ()) => (common, [badConfiguration])
      | some (.ok name) =>
          (a.valueIn? (configurationPath directory name) part key <|> common, [])

def projectVariables : List String :=
  ["CLOUDSDK_CORE_PROJECT", "GOOGLE_CLOUD_PROJECT", "GCLOUD_PROJECT"]

def badProject (name : String) : LogLine := ⟨.warn, "Invalid project ID format in " ++ name⟩

def projectIn? (a : Ambient) : List String → Found
  | [] => (none, [])
  | name :: names =>
      match a.lookup? name with
      | none => a.projectIn? names
      | some project =>
          if isProjectId project then (some project, [])
          else
            let (found, log) := a.projectIn? names
            (found, badProject name :: log)

def defaultProject (a : Ambient) : Found :=
  match a.projectIn? projectVariables with
  | (some project, log) => (some project, log)
  | (none, log) =>
      let (found, more) := a.property? "core" "project"
      (found.filter isProjectId, log ++ more)

def variableOr (a : Ambient) (name part key : String) : Found :=
  match a.lookup? name with
  | some value => (some value, [])
  | none => a.property? part key

def defaultRegion (a : Ambient) : Found :=
  a.variableOr "CLOUDSDK_COMPUTE_REGION" "compute" "region"

def defaultZone (a : Ambient) : Found :=
  a.variableOr "CLOUDSDK_COMPUTE_ZONE" "compute" "zone"

end Reconcile.Ambient
