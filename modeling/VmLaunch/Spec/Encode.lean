import VmLaunch.Json.Basic
import VmLaunch.Spec.Words

/-!
# Encoding specs

The JSON form of a spec holds every field under its camel-case name, an unset
option as `null`. An alternative is an object with its word under `sourceType`,
`mode` or `type`; the fields of the machine shape stand among those of the spec.
-/

namespace VmLaunch.Spec

open Json (optional int strs)

/-- An optional text. -/
def optionalStr : Option String → Json :=
  optional Json.str

/-- An optional flag. -/
def optionalFlag : Option Bool → Json :=
  optional Json.bool

/-- An optional sixty-four bit integer. -/
def optionalInt64 : Option Int64 → Json :=
  optional fun n => int n.toInt

/-- The members of the machine shape. -/
def Shape.members (s : Shape) : List (String × Json) :=
  [("machineFamily", optionalStr s.machineFamily),
   ("machineType", .str s.machineType),
   ("provisioningModel", .str s.provisioningModel.word),
   ("minCpuPlatform", optionalStr s.minCpuPlatform)]

/-- An image choice as an object with one key. -/
def ImageChoice.encode : ImageChoice → Json
  | .name text => .obj [("name", .str text)]
  | .family text => .obj [("family", .str text)]

/-- A boot source with its word under `sourceType`. -/
def BootSource.encode : BootSource → Json
  | .publicImage imageProject choice =>
    .obj [("sourceType", .str "publicImage"), ("imageProject", .str imageProject),
      ("image", choice.encode)]
  | .customImage text => .obj [("sourceType", .str "customImage"), ("image", .str text)]
  | .snapshot text => .obj [("sourceType", .str "snapshot"), ("snapshot", .str text)]
  | .existingDisk text => .obj [("sourceType", .str "existingDisk"), ("disk", .str text)]

/-- The boot disk. -/
def BootDisk.encode (d : BootDisk) : Json :=
  .obj [("source", optional BootSource.encode d.source),
    ("diskType", optionalStr d.diskType),
    ("sizeGb", optionalInt64 d.sizeGb),
    ("autoDelete", .bool d.autoDelete),
    ("deviceName", optionalStr d.deviceName),
    ("kmsKey", optionalStr d.kmsKey),
    ("snapshotSchedule", optionalStr d.snapshotSchedule)]

/-- A further disk with its word under `mode`. -/
def ExtraDisk.encode : ExtraDisk → Json
  | .existing disk readOnly autoDelete deviceName =>
    .obj [("mode", .str "existing"), ("disk", .str disk), ("readOnly", .bool readOnly),
      ("autoDelete", .bool autoDelete), ("deviceName", optionalStr deviceName)]
  | .new name sizeGb diskType autoDelete kmsKey =>
    .obj [("mode", .str "new"), ("name", optionalStr name), ("sizeGb", optionalInt64 sizeGb),
      ("diskType", optionalStr diskType), ("autoDelete", .bool autoDelete),
      ("kmsKey", optionalStr kmsKey)]

/-- An internal address with its word under `type`. -/
def InternalAddress.encode : InternalAddress → Json
  | .ephemeral => .obj [("type", .str "ephemeral")]
  | .static address => .obj [("type", .str "static"), ("address", .str address)]

/-- An external address with its word under `type`. -/
def ExternalAddress.encode : ExternalAddress → Json
  | .absent => .obj [("type", .str "none")]
  | .ephemeral => .obj [("type", .str "ephemeral")]
  | .static address => .obj [("type", .str "static"), ("address", .str address)]

/-- A firewall rule in compact form. -/
def RuleText.encode (r : RuleText) : Json :=
  .obj [("name", .str r.name), ("allow", .str r.allow), ("sourceRanges", .str r.sourceRanges),
    ("targetTag", .str r.targetTag), ("network", optionalStr r.network),
    ("priority", optional (fun n => int n.toNat) r.priority),
    ("description", optionalStr r.description)]

/-- The network interface, tags and rules. -/
def Networking.encode (n : Networking) : Json :=
  .obj [("network", optionalStr n.network), ("subnetwork", optionalStr n.subnetwork),
    ("nicType", optionalStr n.nicType), ("stackType", optionalStr n.stackType),
    ("networkTier", optionalStr n.networkTier), ("internalIp", n.internalIp.encode),
    ("externalIp", n.externalIp.encode), ("tags", strs n.tags),
    ("firewallRules", .arr (n.firewallRules.map RuleText.encode))]

/-- The checks of the boot sequence. -/
def ShieldedVm.encode (s : ShieldedVm) : Json :=
  .obj [("secureBoot", .bool s.secureBoot), ("vtpm", .bool s.vtpm),
    ("integrityMonitoring", .bool s.integrityMonitoring)]

/-- Protection of firmware and memory. -/
def Security.encode (s : Security) : Json :=
  .obj [("shieldedVm", optional ShieldedVm.encode s.shieldedVm),
    ("confidentialVmType", optional (fun t => .str t.word) s.confidentialVmType)]

/-- The account and who may log in. -/
def Identity.encode (i : Identity) : Json :=
  .obj [("serviceAccount", optionalStr i.serviceAccount), ("scopes", strs i.scopes),
    ("enableOsLogin", optionalFlag i.enableOsLogin),
    ("blockProjectSshKeys", optionalFlag i.blockProjectSshKeys)]

/-- A key with its value. -/
def KeyValue.encode (kv : KeyValue) : Json :=
  .obj [("key", .str kv.key), ("value", .str kv.value)]

/-- Metadata, scripts and host behaviour. -/
def Management.encode (m : Management) : Json :=
  .obj [("metadata", .arr (m.metadata.map KeyValue.encode)),
    ("startupScript", optionalStr m.startupScript),
    ("shutdownScript", optionalStr m.shutdownScript),
    ("automaticRestart", .bool m.automaticRestart),
    ("onHostMaintenance", .str m.onHostMaintenance.word),
    ("maintenancePolicy", optionalStr m.maintenancePolicy)]

/-- Accelerators of one type. -/
def Accelerator.encode (a : Accelerator) : Json :=
  .obj [("acceleratorType", .str a.acceleratorType), ("count", int a.count.toInt)]

/-- A constraint on hosts. -/
def NodeAffinity.encode (a : NodeAffinity) : Json :=
  .obj [("key", .str a.key), ("operator", .str a.operator), ("values", strs a.values)]

/-- Everything that few machines need. -/
def Advanced.encode (a : Advanced) : Json :=
  .obj [("accelerators", .arr (a.accelerators.map Accelerator.encode)),
    ("nodeAffinities", .arr (a.nodeAffinities.map NodeAffinity.encode)),
    ("resourcePolicies", strs a.resourcePolicies),
    ("labels", .arr (a.labels.map KeyValue.encode)),
    ("minNodeCpus", optionalInt64 a.minNodeCpus),
    ("enableDisplay", .bool a.enableDisplay),
    ("enableSerialPort", optionalFlag a.enableSerialPort),
    ("description", optionalStr a.description),
    ("deletionProtection", .bool a.deletionProtection),
    ("canIpForward", .bool a.canIpForward)]

end VmLaunch.Spec

namespace VmLaunch

open Spec in
/-- The whole spec. -/
def MachineSpec.encode (s : MachineSpec) : Json :=
  .obj ([("instanceName", .str s.instanceName),
      ("project", optionalStr s.project),
      ("region", optionalStr s.region),
      ("zone", .str s.zone)] ++
    s.machine.members ++
    [("bootDisk", s.bootDisk.encode),
      ("additionalDisks", .arr (s.additionalDisks.map ExtraDisk.encode)),
      ("localSsdCount", Json.int s.localSsdCount.toInt),
      ("networking", s.networking.encode),
      ("security", s.security.encode),
      ("identity", s.identity.encode),
      ("management", s.management.encode),
      ("advanced", s.advanced.encode)])

end VmLaunch
