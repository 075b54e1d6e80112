import VmLaunch.Catalog.Cache
import VmLaunch.Catalog.Entry.Compute
import VmLaunch.Catalog.Entry.Network
import VmLaunch.Catalog.Entry.Place
import VmLaunch.Catalog.Entry.Storage
import VmLaunch.Provider.Work

/-!
# The catalog

A `Catalog` keeps one cache for each kind of list, and a `Session` is a catalog
in its world. A `Shelf` is the place of one cache within the catalog.
-/

namespace VmLaunch

/-- The lists that were fetched and have not expired. -/
structure Catalog where
  regions : Cache (List Region)
  zones : Cache (List Zone)
  machineTypes : Cache (List MachineType)
  diskTypes : Cache (List DiskType)
  images : Cache (List Image)
  disks : Cache (List Disk)
  snapshots : Cache (List Snapshot)
  resourcePolicies : Cache (List ResourcePolicy)
  networks : Cache (List Network)
  subnetworks : Cache (List Subnetwork)
  addresses : Cache (List ReservedAddress)
  firewalls : Cache (List ListedRule)
  deriving Inhabited

namespace Catalog

/-- A catalog without entries whose lists live for a while. -/
def fresh (ttl : Duration) : Catalog where
  regions := .empty ttl
  zones := .empty ttl
  machineTypes := .empty ttl
  diskTypes := .empty ttl
  images := .empty ttl
  disks := .empty ttl
  snapshots := .empty ttl
  resourcePolicies := .empty ttl
  networks := .empty ttl
  subnetworks := .empty ttl
  addresses := .empty ttl
  firewalls := .empty ttl

/-- How long lists live when nothing else is asked for. -/
def defaultTtl : Duration :=
  .ofSecs (24 * 60 * 60)

end Catalog

/-- The place of one cache within the catalog. -/
structure Shelf (α : Type) where
  get : Catalog → Cache (List α)
  put : Cache (List α) → Catalog → Catalog

namespace Shelf

/-- The shelf of regions. -/
def regions : Shelf Region := ⟨Catalog.regions, fun cache c => { c with regions := cache }⟩

/-- The shelf of zones. -/
def zones : Shelf Zone := ⟨Catalog.zones, fun cache c => { c with zones := cache }⟩

/-- The shelf of machine types. -/
def machineTypes : Shelf MachineType :=
  ⟨Catalog.machineTypes, fun cache c => { c with machineTypes := cache }⟩

/-- The shelf of disk types. -/
def diskTypes : Shelf DiskType := ⟨Catalog.diskTypes, fun cache c => { c with diskTypes := cache }⟩

/-- The shelf of images. -/
def images : Shelf Image := ⟨Catalog.images, fun cache c => { c with images := cache }⟩

/-- The shelf of disks. -/
def disks : Shelf Disk := ⟨Catalog.disks, fun cache c => { c with disks := cache }⟩

/-- The shelf of snapshots. -/
def snapshots : Shelf Snapshot := ⟨Catalog.snapshots, fun cache c => { c with snapshots := cache }⟩

/-- The shelf of resource policies. -/
def resourcePolicies : Shelf ResourcePolicy :=
  ⟨Catalog.resourcePolicies, fun cache c => { c with resourcePolicies := cache }⟩

/-- The shelf of networks. -/
def networks : Shelf Network := ⟨Catalog.networks, fun cache c => { c with networks := cache }⟩

/-- The shelf of subnetworks. -/
def subnetworks : Shelf Subnetwork :=
  ⟨Catalog.subnetworks, fun cache c => { c with subnetworks := cache }⟩

/-- The shelf of reserved addresses. -/
def addresses : Shelf ReservedAddress :=
  ⟨Catalog.addresses, fun cache c => { c with addresses := cache }⟩

/-- The shelf of firewall rules. -/
def firewalls : Shelf ListedRule :=
  ⟨Catalog.firewalls, fun cache c => { c with firewalls := cache }⟩

end Shelf

/-- A catalog in its world. -/
structure Session where
  world : World
  catalog : Catalog

namespace Session

/-- A session at the beginning of time. -/
def start (ttl : Duration) : Session :=
  ⟨{}, Catalog.fresh ttl⟩

end Session

namespace Work

/-- Work on the world as work on a session. -/
def inSession {α : Type} (work : Work World α) : Work Session α :=
  fun session =>
    let (outcome, world) := work session.world
    (outcome, { session with world := world })

end Work

namespace Shelf

variable {α : Type}

/-- Read a key of a shelf at the present time. -/
def lookup (shelf : Shelf α) (key : String) : Work Session (Option (List α)) :=
  fun session =>
    let (found, cache) := (shelf.get session.catalog).get session.world.now key
    (.ok found, { session with catalog := shelf.put cache session.catalog })

/-- Store a list on a shelf at the present time. -/
def store (shelf : Shelf α) (key : String) (items : List α) : Work Session Unit :=
  fun session =>
    let cache := (shelf.get session.catalog).set session.world.now key items
    (.ok (), { session with catalog := shelf.put cache session.catalog })

/-- Drop a key of a shelf. -/
def drop (shelf : Shelf α) (key : String) : Work Session Unit :=
  fun session =>
    let (_, cache) := (shelf.get session.catalog).invalidate key
    (.ok (), { session with catalog := shelf.put cache session.catalog })

/-- The list under a key, obtained and stored when it is not there. -/
def through (shelf : Shelf α) (key : String) (obtain : Work Session (List α)) :
    Work Session (List α) := do
  match ← shelf.lookup key with
  | some items => return items
  | none =>
    let items ← obtain
    shelf.store key items
    return items

end Shelf

end VmLaunch
