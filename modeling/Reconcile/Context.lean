import Reconcile.Duration
import Reconcile.Template
import Reconcile.Zone

namespace Reconcile

structure Defaults where
  project : Option String
  region : Option String
  zone : Option String
  deriving DecidableEq, Repr

structure Context where
  defaults : Defaults
  endpoint : String
  operationTimeout : Option Duration
  pollInterval : Option Duration
  deriving DecidableEq, Repr

namespace Context

def standardEndpoint : String := "https://compute.googleapis.com/compute/v1/"

def ofDefaults (defaults : Defaults) : Context := ⟨defaults, standardEndpoint, none, none⟩

def withEndpoint (c : Context) (endpoint : String) : Context :=
  let slash := if endpoint.toList.getLast? = some '/' then "" else "/"
  { c with endpoint := endpoint ++ slash }

def project (c : Context) : Option String := c.defaults.project

def zone (c : Context) : Option String := c.defaults.zone

def region (c : Context) : Option String :=
  c.defaults.region <|> c.defaults.zone.bind regionOfZone?

def defaultFields (c : Context) : Fields :=
  Keyed.ofList ([("project", c.project), ("region", c.region), ("zone", c.zone)].filterMap
    fun (name, value) => value.map (name, ·))

def url (c : Context) (path : String) : String :=
  c.endpoint ++ String.ofList (path.toList.dropWhile (· == '/'))

def timeoutOr (c : Context) (usual : Duration) : Duration := c.operationTimeout.getD usual

def pollIntervalOr (c : Context) (usual : Duration) : Duration := c.pollInterval.getD usual

end Context

end Reconcile
