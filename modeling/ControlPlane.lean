import ControlPlane.Http.Script
import ControlPlane.Json.Compact
import ControlPlane.Json.Plain
import ControlPlane.Proofs.Atomicity
import ControlPlane.Proofs.Binding.Ports
import ControlPlane.Proofs.ClientSecret
import ControlPlane.Proofs.Codec.RoundTrip
import ControlPlane.Proofs.ComposedId.Imports
import ControlPlane.Proofs.Creation
import ControlPlane.Proofs.DataLabel.Naming
import ControlPlane.Proofs.Drift
import ControlPlane.Proofs.Exclusive
import ControlPlane.Proofs.Identity.Run
import ControlPlane.Proofs.Import
import ControlPlane.Proofs.Logging.Drift
import ControlPlane.Proofs.Lookups
import ControlPlane.Proofs.Paging.Ends
import ControlPlane.Proofs.Parameters
import ControlPlane.Proofs.Plan.Configuration
import ControlPlane.Proofs.Plan.InPlace
import ControlPlane.Proofs.Plan.Settled
import ControlPlane.Proofs.Reads.Again
import ControlPlane.Proofs.Removal
import ControlPlane.Proofs.Repository.Drift
import ControlPlane.Proofs.Repository.WellFormed
import ControlPlane.Proofs.Required
import ControlPlane.Proofs.Routing
import ControlPlane.Proofs.Secrets.Kept
import ControlPlane.Proofs.Secrets.Marks
import ControlPlane.Proofs.Secrets.Unseen
import ControlPlane.Proofs.Settings
import ControlPlane.Proofs.Settings.Address
import ControlPlane.Proofs.Settings.Spelling
import ControlPlane.Proofs.Tokens
import ControlPlane.Proofs.Upsert.Simulation
import ControlPlane.Proofs.Validation
import ControlPlane.Proofs.Wire
import ControlPlane.Provider
import ControlPlane.Resource.Lifecycle
