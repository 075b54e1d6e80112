import VmLaunch.Text.Blank
import VmLaunch.Text.Pieces

/-!
# Resource references

A resource is named by a short name or by a path. Text that contains a slash is
a path and is kept as it stands; any other text is a short name, which is trimmed
and qualified with a project and a location.
-/

namespace VmLaunch

/-- A resource by short name, or by a path that is used as it stands. -/
inductive Reference where
  | short (name : String)
  | path (whole : String)
  deriving DecidableEq, Inhabited

namespace Reference

/-- Classify the text of a reference. -/
def parse (text : String) : Reference :=
  if Text.hasChar text '/' then .path text else .short (Text.trim text)

/-- The name or the path. -/
def text : Reference → String
  | .short name => name
  | .path whole => whole

/-- Whether the reference is already a path. -/
def isPath : Reference → Bool
  | .short _ => false
  | .path _ => true

/-- The path of a reference: a short name under `parent`, a path as it stands. -/
def under (parent : String) : Reference → String
  | .short name => parent ++ "/" ++ name
  | .path whole => whole

end Reference

/-- The last segment of a path. -/
def shortName (path : String) : String :=
  Text.lastPiece '/' path

/-- The region of a zone: the zone without its last hyphen and what follows it. -/
def regionOfZone (zone : String) : String :=
  match Text.cutLast? '-' zone with
  | some (region, _) => if region == "" then zone else region
  | none => zone

/-- The path of the text of a reference under a parent. -/
def qualify (parent text : String) : String :=
  (Reference.parse text).under parent

/-- The parent of a project's global resources of one collection. -/
def globalParent (project collection : String) : String :=
  "projects/" ++ project ++ "/global/" ++ collection

/-- The parent of a region's resources of one collection. -/
def regionParent (project region collection : String) : String :=
  "projects/" ++ project ++ "/regions/" ++ region ++ "/" ++ collection

/-- The parent of a zone's resources of one collection. -/
def zoneParent (project zone collection : String) : String :=
  "projects/" ++ project ++ "/zones/" ++ zone ++ "/" ++ collection

/-- The path of an image. -/
def imagePath (image project : String) : String :=
  qualify (globalParent project "images") image

/-- The path under which the latest image of a family is found. -/
def imageFamilyPath (family project : String) : String :=
  qualify (globalParent project "images/family") family

/-- The path of a snapshot. -/
def snapshotPath (snapshot project : String) : String :=
  qualify (globalParent project "snapshots") snapshot

/-- The path of a disk. -/
def diskPath (disk project zone : String) : String :=
  qualify (zoneParent project zone "disks") disk

/-- The path of a disk type; the type as it stands when there is no project or no zone. -/
def diskTypePath (diskType project zone : String) : String :=
  if project == "" || zone == "" then diskType
  else qualify (zoneParent project zone "diskTypes") diskType

/-- The path of a network. -/
def networkPath (network project : String) : String :=
  qualify (globalParent project "networks") network

/-- The path of a subnetwork. -/
def subnetworkPath (subnetwork project region : String) : String :=
  qualify (regionParent project region "subnetworks") subnetwork

/-- The path of a resource policy. -/
def resourcePolicyPath (policy project region : String) : String :=
  qualify (regionParent project region "resourcePolicies") policy

/-- The path of a machine type, which leaves out the project. -/
def machineTypePath (machineType zone : String) : String :=
  qualify ("zones/" ++ zone ++ "/machineTypes") machineType

/-- The path of an accelerator type. -/
def acceleratorTypePath (acceleratorType project zone : String) : String :=
  qualify (zoneParent project zone "acceleratorTypes") acceleratorType

end VmLaunch
