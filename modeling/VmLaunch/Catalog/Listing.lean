import VmLaunch.Catalog.Basic
import VmLaunch.Price
import VmLaunch.Provider.Pages

/-!
# Listing resources

Each list is read through its shelf and walked page by page when it is not there.
Zones are derived from regions; machine types are stored with their estimates;
images are stored as they come and the withdrawn ones are left out of every
answer.
-/

namespace VmLaunch.Catalog

variable (env : Environment)

/-- A list that is stored as it is fetched. -/
def plain {α : Type} (shelf : Shelf α) (read : Json → Option α) (key path : String) :
    Work Session (List α) :=
  shelf.through key (Page.fetchAll env read path).inSession

/-- The projects that publish images for everyone. -/
def publicImageProjects : List String :=
  ["centos-cloud", "cos-cloud", "debian-cloud", "fedora-coreos-cloud", "rhel-cloud",
    "rocky-linux-cloud", "suse-cloud", "ubuntu-os-cloud", "ubuntu-os-pro-cloud", "windows-cloud"]

/-- Whether a project publishes images for everyone. -/
def isPublicImageProject (project : String) : Bool :=
  publicImageProjects.contains project

/-- The regions of a project. -/
def listRegions (project : String) : Work Session (List Region) :=
  plain env .regions Region.decode (Cache.key "regions" project "")
    ("projects/" ++ project ++ "/regions")

/-- The zones of regions, of one region or of all. -/
def zonesOf (region : Option String) (regions : List Region) : List Zone :=
  (regions.filter fun r => region.isNone || region == some r.name).flatMap Region.toZones

/-- The zones of a project, of one region or of all. -/
def listZones (project : String) (region : Option String) : Work Session (List Zone) :=
  Shelf.zones.through (Cache.key "zones" project (region.getD "")) do
    let regions ← listRegions env project
    return zonesOf region regions

/-- A machine type with the estimate for its shape in a region. -/
def withEstimate (region : String) (machine : MachineType) : MachineType :=
  let cost := Price.monthly region .standard machine.guestCpus.toFloat machine.memoryGb
  { machine with estimatedMonthlyCost := some (Price.label cost) }

/-- The machine types of a zone, with estimates. -/
def listMachineTypes (project zone : String) : Work Session (List MachineType) :=
  Shelf.machineTypes.through (Cache.key "machineTypes" project zone) do
    let types ←
      (Page.fetchAll env MachineType.decode (zoneParent project zone "machineTypes")).inSession
    return types.map (withEstimate (regionOfZone zone))

/-- The disk types of a zone. -/
def listDiskTypes (project zone : String) : Work Session (List DiskType) :=
  plain env .diskTypes DiskType.decode (Cache.key "diskTypes" project zone)
    (zoneParent project zone "diskTypes")

/-- The images of a project that were not withdrawn. -/
def listActiveImages (kind project : String) : Work Session (List Image) := do
  let images ← plain env .images Image.decode (Cache.key kind project "")
    (globalParent project "images")
  return images.filter fun image => !image.isDeprecated

/-- The images that a project publishes for everyone; none of any other project. -/
def listPublicImages (imageProject : String) : Work Session (List Image) :=
  if isPublicImageProject imageProject then listActiveImages env "publicImages" imageProject
  else return []

/-- The images of a project of one's own. -/
def listCustomImages (project : String) : Work Session (List Image) :=
  listActiveImages env "images" project

/-- Add a text to sorted texts unless it is there. -/
def insertSorted (text : String) : List String → List String
  | [] => [text]
  | t :: rest =>
    if text = t then t :: rest
    else if text < t then text :: t :: rest
    else t :: insertSorted text rest

/-- The families of images, sorted, each once. -/
def familiesOf (images : List Image) : List String :=
  ((images.map Image.family).filter (· != "")).foldl (fun kept f => insertSorted f kept) []

/-- The families of the images that a project publishes for everyone. -/
def listImageFamilies (imageProject : String) : Work Session (List String) := do
  let images ← listPublicImages env imageProject
  return familiesOf images

/-- The disks of a zone. -/
def listDisks (project zone : String) : Work Session (List Disk) :=
  plain env .disks Disk.decode (Cache.key "disks" project zone) (zoneParent project zone "disks")

/-- The snapshots of a project. -/
def listSnapshots (project : String) : Work Session (List Snapshot) :=
  plain env .snapshots Snapshot.decode (Cache.key "snapshots" project "")
    (globalParent project "snapshots")

/-- The resource policies of a region. -/
def listResourcePolicies (project region : String) : Work Session (List ResourcePolicy) :=
  plain env .resourcePolicies ResourcePolicy.decode (Cache.key "resourcePolicies" project region)
    (regionParent project region "resourcePolicies")

/-- The networks of a project. -/
def listNetworks (project : String) : Work Session (List Network) :=
  plain env .networks Network.decode (Cache.key "networks" project "")
    (globalParent project "networks")

/-- The subnetworks of a region. -/
def listSubnetworks (project region : String) : Work Session (List Subnetwork) :=
  plain env .subnetworks Subnetwork.decode (Cache.key "subnetworks" project region)
    (regionParent project region "subnetworks")

/-- The reserved addresses of a region. -/
def listAddresses (project region : String) : Work Session (List ReservedAddress) :=
  plain env .addresses ReservedAddress.decode (Cache.key "addresses" project region)
    (regionParent project region "addresses")

/-- The key of the firewall rules of a project. -/
def firewallsKey (project : String) : String :=
  Cache.key "firewalls" project ""

/-- The firewall rules of a project. -/
def listFirewalls (project : String) : Work Session (List ListedRule) :=
  plain env .firewalls ListedRule.decode (firewallsKey project) (globalParent project "firewalls")

/-- Drop the stored firewall rules of a project. -/
def forgetFirewalls (project : String) : Work Session Unit :=
  Shelf.firewalls.drop (firewallsKey project)

end VmLaunch.Catalog
