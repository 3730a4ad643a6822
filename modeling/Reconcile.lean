import Reconcile.Main
import Reconcile.Proofs.Lifecycle.Confinement
import Reconcile.Proofs.Lifecycle.Recorded
import Reconcile.Proofs.Lifecycle.Removal
import Reconcile.Proofs.Lifecycle.Retry
import Reconcile.Proofs.Lifecycle.Trace
import Reconcile.Proofs.Network.AddressRoundTrip
import Reconcile.Proofs.Network.RegionLink
import Reconcile.Proofs.Network.RouteRoundTrip
import Reconcile.Proofs.Waiting.Endless
import Reconcile.Proofs.Json.Record
import Reconcile.Proofs.Waiting.Evidence
import Reconcile.Proofs.Waiting.OneOperation
import Reconcile.Proofs.Url.Words
import Reconcile.Proofs.Reference.Spellings
import Reconcile.Proofs.Reference.Within
import Reconcile.Proofs.Network.Hydration
import Reconcile.Proofs.Import.Spellings
import Reconcile.Proofs.Lifecycle.Submitted
import Reconcile.Proofs.Wire.Series
import Reconcile.Proofs.Network.InsertBody
import Reconcile.Proofs.Reference.Grammar
import Reconcile.Proofs.Network.EmptyHops
import Reconcile.Proofs.Waiting.Decision
import Reconcile.Proofs.Waiting.Schedule
import Reconcile.Proofs.Ambient.Discovery
import Reconcile.Proofs.Http.Outcome
import Reconcile.Proofs.Http.LogText
import Reconcile.Proofs.Reference.Version
import Reconcile.Proofs.Network.RecordRoundTrip
import Reconcile.Proofs.Waiting.Arithmetic
import Reconcile.Proofs.Import.Patterns
