/-!
# Machine specs

A `MachineSpec` is the description of one virtual machine that a person writes.
What only one choice of an alternative needs is held by that alternative, so a
snapshot source has no image and an ephemeral address has no text.
-/

namespace VmLaunch

namespace Spec

/-- How the machine's capacity is sold. -/
inductive ProvisioningModel where
  | standard
  | spot
  deriving DecidableEq, Inhabited

/-- What happens to the machine when its host is maintained. -/
inductive HostMaintenance where
  | migrate
  | terminate
  deriving DecidableEq, Inhabited

/-- The technology that encrypts the machine's memory. -/
inductive ConfidentialType where
  | sev
  | sevSnp
  | tdx
  deriving DecidableEq, Inhabited

/-- The shape of the machine. The family is for the reader only. -/
structure Shape where
  machineFamily : Option String := none
  machineType : String := ""
  provisioningModel : ProvisioningModel := .standard
  minCpuPlatform : Option String := none
  deriving DecidableEq, Inhabited

/-- An image by its own name or as the latest of a family. -/
inductive ImageChoice where
  | name (name : String)
  | family (family : String)
  deriving DecidableEq, Inhabited

/-- What the boot disk is made from. -/
inductive BootSource where
  | publicImage (imageProject : String) (image : ImageChoice)
  | customImage (image : String)
  | snapshot (snapshot : String)
  | existingDisk (disk : String)
  deriving DecidableEq, Inhabited

/-- The boot disk. Its type, size and schedule concern a newly created disk only. -/
structure BootDisk where
  source : Option BootSource := none
  diskType : Option String := none
  sizeGb : Option Int64 := none
  autoDelete : Bool := true
  deviceName : Option String := none
  kmsKey : Option String := none
  snapshotSchedule : Option String := none
  deriving DecidableEq, Inhabited

/-- A further disk, attached as it exists or created with the machine. -/
inductive ExtraDisk where
  | existing (disk : String) (readOnly autoDelete : Bool) (deviceName : Option String)
  | new (name : Option String) (sizeGb : Option Int64) (diskType : Option String)
      (autoDelete : Bool) (kmsKey : Option String)
  deriving DecidableEq, Inhabited

/-- The address inside the network. A static one is a literal or a reserved name. -/
inductive InternalAddress where
  | ephemeral
  | static (address : String)
  deriving DecidableEq, Inhabited

/-- The address outside the network. A static one is a literal or a reserved name. -/
inductive ExternalAddress where
  | absent
  | ephemeral
  | static (address : String)
  deriving DecidableEq, Inhabited

/-- A firewall rule in compact form: `allow` and `sourceRanges` are lists with commas. -/
structure RuleText where
  name : String := ""
  allow : String := ""
  sourceRanges : String := ""
  targetTag : String := ""
  network : Option String := none
  priority : Option UInt32 := none
  description : Option String := none
  deriving DecidableEq, Inhabited

/-- The machine's one network interface, its tags and the rules for them. -/
structure Networking where
  network : Option String := none
  subnetwork : Option String := none
  nicType : Option String := none
  stackType : Option String := none
  networkTier : Option String := none
  internalIp : InternalAddress := .ephemeral
  externalIp : ExternalAddress := .ephemeral
  tags : List String := []
  firewallRules : List RuleText := []
  deriving DecidableEq, Inhabited

/-- The checks of the boot sequence. -/
structure ShieldedVm where
  secureBoot : Bool := false
  vtpm : Bool := true
  integrityMonitoring : Bool := true
  deriving DecidableEq, Inhabited

/-- Protection of the machine's firmware and memory. -/
structure Security where
  shieldedVm : Option ShieldedVm := none
  confidentialVmType : Option ConfidentialType := none
  deriving DecidableEq, Inhabited

/-- The account the machine acts as and who may log in. -/
structure Identity where
  serviceAccount : Option String := none
  scopes : List String := []
  enableOsLogin : Option Bool := none
  blockProjectSshKeys : Option Bool := none
  deriving DecidableEq, Inhabited

/-- A key with its value. -/
structure KeyValue where
  key : String := ""
  value : String := ""
  deriving DecidableEq, Inhabited

/-- Metadata, scripts and the behaviour of the machine around its host. -/
structure Management where
  metadata : List KeyValue := []
  startupScript : Option String := none
  shutdownScript : Option String := none
  automaticRestart : Bool := true
  onHostMaintenance : HostMaintenance := .migrate
  maintenancePolicy : Option String := none
  deriving DecidableEq, Inhabited

/-- A number of accelerators of one type. -/
structure Accelerator where
  acceleratorType : String := ""
  count : Int64 := 0
  deriving DecidableEq, Inhabited

/-- A constraint on the hosts the machine may run on. -/
structure NodeAffinity where
  key : String := ""
  operator : String := ""
  values : List String := []
  deriving DecidableEq, Inhabited

/-- Everything that few machines need. -/
structure Advanced where
  accelerators : List Accelerator := []
  nodeAffinities : List NodeAffinity := []
  resourcePolicies : List String := []
  labels : List KeyValue := []
  minNodeCpus : Option Int64 := none
  enableDisplay : Bool := false
  enableSerialPort : Option Bool := none
  description : Option String := none
  deletionProtection : Bool := false
  canIpForward : Bool := false
  deriving DecidableEq, Inhabited

end Spec

open Spec in
/-- The description of one virtual machine. -/
structure MachineSpec where
  instanceName : String := ""
  project : Option String := none
  region : Option String := none
  zone : String := ""
  machine : Shape := {}
  bootDisk : BootDisk := {}
  additionalDisks : List ExtraDisk := []
  localSsdCount : Int64 := 0
  networking : Networking := {}
  security : Security := {}
  identity : Identity := {}
  management : Management := {}
  advanced : Advanced := {}
  deriving DecidableEq, Inhabited

end VmLaunch
