import RightsStore.Document.Json
import RightsStore.Main
import RightsStore.Schema.Load
import RightsStore.Proofs.Gregorian
import RightsStore.Proofs.Rows
import RightsStore.Proofs.Statements
import RightsStore.Proofs.StoredMoment
import RightsStore.Proofs.Binding
import RightsStore.Proofs.Writes
import RightsStore.Proofs.Steps
import RightsStore.Proofs.FailedSteps
import RightsStore.Proofs.Stores
import RightsStore.Proofs.History
import RightsStore.Proofs.LastWrites
import RightsStore.Proofs.Integrity
import RightsStore.Proofs.Snapshots
import RightsStore.Proofs.Connections
import RightsStore.Proofs.Declarations
import RightsStore.Proofs.Dialects
import RightsStore.Proofs.Contents
import RightsStore.Proofs.Pages
import RightsStore.Proofs.Visibility
import RightsStore.Proofs.Comparison
import RightsStore.Proofs.Lockstep
import RightsStore.Proofs.HiddenKeys
import RightsStore.Proofs.LegacyContents
import RightsStore.Proofs.Reopenings
import RightsStore.Proofs.Disks
import RightsStore.Proofs.Bootstraps
import RightsStore.Proofs.Dumps
import RightsStore.Proofs.Reads
import RightsStore.Proofs.WrittenMoment
import RightsStore.Proofs.ExternalForm
import RightsStore.Proofs.Restorations
import RightsStore.Proofs.LicenseWrites
import RightsStore.Proofs.IndependentWrites
import RightsStore.Proofs.Refusals
import RightsStore.Proofs.StepFailures
import RightsStore.Proofs.Containers
import RightsStore.Proofs.Enforcement
import RightsStore.Proofs.StoredOrder
import RightsStore.Proofs.Issues
import RightsStore.Proofs.Listings
import RightsStore.Proofs.WriteFaults
import RightsStore.Proofs.Placeholders
import RightsStore.Proofs.Literals
import RightsStore.Proofs.Backends
import RightsStore.Proofs.Loads
import RightsStore.Proofs.LogLevels
