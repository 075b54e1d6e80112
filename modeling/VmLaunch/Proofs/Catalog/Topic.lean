import VmLaunch.Catalog.Listing
import VmLaunch.Proofs.Catalog.Cache
import VmLaunch.Proofs.Course

/-!
# Topics

A `Topic` is a list that the catalog stores, with the drawer and the key it is
stored under and the way it is obtained. `Topic.content` is what a provider with
fixed answers has to say about it, whatever the catalog knows already.
-/

namespace VmLaunch

/-- How many items an answer has. -/
def Outcome.length? {α : Type} : Outcome (List α) → Option Nat
  | .ok items => some items.length
  | .error _ => none
  | .unfinished => none

namespace Catalog

/-- The caches of a catalog. -/
inductive Drawer where
  | regions
  | zones
  | machineTypes
  | diskTypes
  | images
  | disks
  | snapshots
  | resourcePolicies
  | networks
  | subnetworks
  | addresses
  | firewalls
  deriving DecidableEq

namespace Drawer

/-- What the lists of a drawer hold. -/
def Entry : Drawer → Type
  | .regions => Region
  | .zones => Zone
  | .machineTypes => MachineType
  | .diskTypes => DiskType
  | .images => Image
  | .disks => Disk
  | .snapshots => Snapshot
  | .resourcePolicies => ResourcePolicy
  | .networks => Network
  | .subnetworks => Subnetwork
  | .addresses => ReservedAddress
  | .firewalls => ListedRule

/-- The place of a drawer. -/
def shelf : (drawer : Drawer) → Shelf drawer.Entry
  | .regions => .regions
  | .zones => .zones
  | .machineTypes => .machineTypes
  | .diskTypes => .diskTypes
  | .images => .images
  | .disks => .disks
  | .snapshots => .snapshots
  | .resourcePolicies => .resourcePolicies
  | .networks => .networks
  | .subnetworks => .subnetworks
  | .addresses => .addresses
  | .firewalls => .firewalls

variable {drawer other : Drawer} {catalog : Catalog}

/-- A cache that was put into a drawer is got back. -/
@[simp]
theorem get_put (drawer : Drawer) (cache : Cache (List drawer.Entry)) (catalog : Catalog) :
    drawer.shelf.get (drawer.shelf.put cache catalog) = cache := by
  cases drawer <;> rfl

/-- What is put into one drawer leaves the others as they are. -/
theorem get_put_of_ne (apart : drawer ≠ other) (cache : Cache (List other.Entry)) :
    drawer.shelf.get (other.shelf.put cache catalog) = drawer.shelf.get catalog := by
  cases drawer <;> cases other <;> trivial

/-- The drawers of a fresh catalog are empty. -/
@[simp]
theorem get_fresh (drawer : Drawer) (ttl : Duration) :
    drawer.shelf.get (fresh ttl) = .empty ttl := by
  cases drawer <;> rfl

end Drawer

/-- Lists of a whole project. -/
inductive Whole where
  | regions
  | publicImages
  | images
  | snapshots
  | networks
  | firewalls
  deriving DecidableEq

namespace Whole

def drawer : Whole → Drawer
  | .regions => .regions
  | .publicImages => .images
  | .images => .images
  | .snapshots => .snapshots
  | .networks => .networks
  | .firewalls => .firewalls

/-- The kind that keys begin with. -/
def name : Whole → String
  | .regions => "regions"
  | .publicImages => "publicImages"
  | .images => "images"
  | .snapshots => "snapshots"
  | .networks => "networks"
  | .firewalls => "firewalls"

/-- The path of the list. Images have one path, whoever they are published for. -/
def path (project : String) : Whole → String
  | .regions => "projects/" ++ project ++ "/regions"
  | .publicImages => globalParent project "images"
  | .images => globalParent project "images"
  | .snapshots => globalParent project "snapshots"
  | .networks => globalParent project "networks"
  | .firewalls => globalParent project "firewalls"

def decode : (kind : Whole) → Json → Option kind.drawer.Entry
  | .regions => Region.decode
  | .publicImages => Image.decode
  | .images => Image.decode
  | .snapshots => Snapshot.decode
  | .networks => Network.decode
  | .firewalls => ListedRule.decode

/-- Walk the list. -/
def fetch (env : Environment) (kind : Whole) (project : String) :
    Work World (List kind.drawer.Entry) :=
  Page.fetchAll env kind.decode (kind.path project)

end Whole

/-- Lists of one zone or one region of a project. -/
inductive Part where
  | machineTypes
  | diskTypes
  | disks
  | resourcePolicies
  | subnetworks
  | addresses
  deriving DecidableEq

namespace Part

def drawer : Part → Drawer
  | .machineTypes => .machineTypes
  | .diskTypes => .diskTypes
  | .disks => .disks
  | .resourcePolicies => .resourcePolicies
  | .subnetworks => .subnetworks
  | .addresses => .addresses

/-- The kind that keys begin with. -/
def name : Part → String
  | .machineTypes => "machineTypes"
  | .diskTypes => "diskTypes"
  | .disks => "disks"
  | .resourcePolicies => "resourcePolicies"
  | .subnetworks => "subnetworks"
  | .addresses => "addresses"

/-- The path of the list. -/
def path (project location : String) : Part → String
  | .machineTypes => zoneParent project location "machineTypes"
  | .diskTypes => zoneParent project location "diskTypes"
  | .disks => zoneParent project location "disks"
  | .resourcePolicies => regionParent project location "resourcePolicies"
  | .subnetworks => regionParent project location "subnetworks"
  | .addresses => regionParent project location "addresses"

def decode : (kind : Part) → Json → Option kind.drawer.Entry
  | .machineTypes => MachineType.decode
  | .diskTypes => DiskType.decode
  | .disks => Disk.decode
  | .resourcePolicies => ResourcePolicy.decode
  | .subnetworks => Subnetwork.decode
  | .addresses => ReservedAddress.decode

/-- Entries as they are stored; machine types get their estimates. -/
def finish (location : String) : (kind : Part) → kind.drawer.Entry → kind.drawer.Entry
  | .machineTypes => withEstimate (regionOfZone location)
  | .diskTypes => id
  | .disks => id
  | .resourcePolicies => id
  | .subnetworks => id
  | .addresses => id

/-- Walk the list. -/
def fetch (env : Environment) (kind : Part) (project location : String) :
    Work World (List kind.drawer.Entry) := do
  let items ← Page.fetchAll env kind.decode (kind.path project location)
  return items.map (kind.finish location)

end Part

/-- A list that the catalog stores. -/
inductive Topic where
  | whole (kind : Whole) (project : String)
  | part (kind : Part) (project location : String)
  | zones (project : String) (region : Option String)
  deriving DecidableEq

namespace Topic

def drawer : Topic → Drawer
  | .whole kind _ => kind.drawer
  | .part kind _ _ => kind.drawer
  | .zones _ _ => .zones

def key : Topic → String
  | .whole kind project => Cache.key kind.name project ""
  | .part kind project location => Cache.key kind.name project location
  | .zones project region => Cache.key "zones" project (region.getD "")

/-- Obtain the list when it is not stored. -/
def obtain (env : Environment) : (topic : Topic) → Work Session (List topic.drawer.Entry)
  | .whole kind project => (kind.fetch env project).inSession
  | .part kind project location => (kind.fetch env project location).inSession
  | .zones project region => do
    let regions ← listRegions env project
    return zonesOf region regions

/-- Read the list through its drawer. -/
def read (env : Environment) (topic : Topic) : Work Session (List topic.drawer.Entry) :=
  topic.drawer.shelf.through topic.key (topic.obtain env)

end Topic

/-- What a provider with fixed answers has to say about a topic. -/
def Topic.content (env : Environment) : (topic : Topic) → Outcome (List topic.drawer.Entry)
  | .whole kind project => (kind.fetch env project {}).1
  | .part kind project location => (kind.fetch env project location {}).1
  | .zones project region => (Whole.regions.fetch env project {}).1.map (zonesOf region)

namespace Topic

/-- The project of a topic. -/
def project : Topic → String
  | .whole _ project => project
  | .part _ project _ => project
  | .zones project _ => project

/-- Topics other than the lists of whole projects. -/
def IsLocated : Topic → Prop
  | .whole _ _ => False
  | .part _ _ _ => True
  | .zones _ _ => True

end Topic

end Catalog

end VmLaunch
