import VmLaunch.Main
import VmLaunch.Proofs.Cache.History
import VmLaunch.Proofs.Cache.Race
import VmLaunch.Proofs.Catalog.Age
import VmLaunch.Proofs.Catalog.Collision
import VmLaunch.Proofs.Launch.DryRun
import VmLaunch.Proofs.Launch.Forget
import VmLaunch.Proofs.Launch.Order
import VmLaunch.Proofs.Launch.Outcome
import VmLaunch.Proofs.Launch.Schedule
import VmLaunch.Proofs.Provider.Circle
import VmLaunch.Proofs.Launch.Cancellation
import VmLaunch.Proofs.Launch.Heed
import VmLaunch.Proofs.Launch.Routines
import VmLaunch.Proofs.Launch.Callers
import VmLaunch.Proofs.Launch.InFlight
import VmLaunch.Proofs.Firewall.Kept
import VmLaunch.Proofs.Launch.Attachment
import VmLaunch.Proofs.Request.DiskNames
import VmLaunch.Proofs.Request.Disks
import VmLaunch.Proofs.Request.Metadata
import VmLaunch.Proofs.Request.Policies
import VmLaunch.Proofs.Resolution
import VmLaunch.Proofs.Catalog.Address
import VmLaunch.Proofs.Launch.Interface
import VmLaunch.Proofs.Launch.Naming
import VmLaunch.Proofs.Launch.Frame
import VmLaunch.Proofs.Request.Scheduling
import VmLaunch.Proofs.Spec.RoundTrip
import VmLaunch.Proofs.Catalog.Spelling
import VmLaunch.Proofs.Firewall.Grammar
import VmLaunch.Proofs.Firewall.Retry
import VmLaunch.Proofs.Time
import VmLaunch.Proofs.Http.Origin
import VmLaunch.Proofs.Provider.Body
import VmLaunch.Proofs.Provider.Chain
import VmLaunch.Proofs.Provider.Token
import VmLaunch.Proofs.Catalog.Failure
import VmLaunch.Proofs.Http.Below
import VmLaunch.Proofs.NameLanguage
import VmLaunch.Proofs.Launch.Summary
import VmLaunch.Proofs.Catalog.Families
import VmLaunch.Proofs.Settings.Configure
import VmLaunch.Proofs.Settings.Defaults
import VmLaunch.Proofs.Settings.Properties
