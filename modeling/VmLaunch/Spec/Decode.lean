import VmLaunch.Source.Record
import VmLaunch.Spec.Words

/-!
# Decoding specs

A section is a record: its fields are given by name or by position and a missing
field takes its default. Alternatives with data and the fields of the machine shape
are read as loose values, so their entries need a value even where no field asks for
it. The spec itself is given by name only.
-/

namespace VmLaunch.Spec

open Source

variable {ν : Type} [Source ν]

/-- The alternative that a word names or that stands at a position among all. -/
def choice {α : Type} (ofWord? : String → Option α) (all : List α) (tree : ν) : Option α :=
  match Source.choice? tree with
  | some (.name word) => ofWord? word
  | some (.index position) => all[position]?
  | none => none

/-- An optional flag. -/
def optionalFlagOf (tree : ν) : Option (Option Bool) :=
  optional Source.flag? tree

/-- An optional sixty-four bit integer. -/
def optionalInt64Of (tree : ν) : Option (Option Int64) :=
  optional int64 tree

/-- The entries of a mapping as loose values. -/
def looseEntries? : List (Loose × ν) → Option (List (Loose × Loose))
  | [] => some []
  | (key, tree) :: rest =>
    match Source.loose? tree, looseEntries? rest with
    | some value, some entries => some ((key, value) :: entries)
    | _, _ => none

/-- Whether a key is a text. -/
def isKey (text : String) (key : Loose) : Bool :=
  key.text? == some text

/-- An alternative with data: its word and its fields. The word stands under the tag of
a mapping, or first in a list whose rest are the fields. -/
def tagged? (tag : String) (tree : ν) : Option (String × Loose) :=
  match Source.collection? tree with
  | some (.mapping entries) =>
    match entries.filter fun entry => isKey tag entry.1 with
    | [(_, chosen)] => do
      let word ← Source.text? chosen
      let fields ← looseEntries? (entries.filter fun entry => !isKey tag entry.1)
      return (word, .mapping fields)
    | _ => none
  | some (.list (chosen :: rest)) => do
    let word ← Source.text? chosen
    let fields ← readAll Source.loose? rest
    return (word, .list fields)
  | _ => none

/-- An alternative without fields ignores the entries of a mapping but not the rest of a
list. -/
def noFields : Loose → Option Unit
  | .list (_ :: _) => none
  | _ => some ()

/-- The names of the fields of the machine shape. -/
def shapeNames : List String :=
  ["machineFamily", "machineType", "provisioningModel", "minCpuPlatform"]

/-- The machine shape from the members that stand beside the fields of the spec. -/
def Shape.ofMembers? (members : List (String × Loose)) : Option Shape := do
  let slots ← knownSlots? shapeNames members
  let machineFamily ← slots.fieldOr "machineFamily" none optionalText
  let machineType ← slots.fieldOr "machineType" "" Source.text?
  let provisioningModel ←
    slots.fieldOr "provisioningModel" .standard
      (choice ProvisioningModel.ofWord? ProvisioningModel.all)
  let minCpuPlatform ← slots.fieldOr "minCpuPlatform" none optionalText
  return { machineFamily, machineType, provisioningModel, minCpuPlatform }

/-- An image choice: a mapping whose only key says which. -/
def ImageChoice.decode : Loose → Option ImageChoice
  | .mapping [(key, .text text)] =>
    match key.fieldKey? with
    | some (.name word) =>
      if word = "name" then some (.name text)
      else if word = "family" then some (.family text)
      else none
    | some (.index position) => [ImageChoice.name text, .family text][position]?
    | none => none
  | _ => none

/-- A boot source. -/
def BootSource.decode (tree : ν) : Option BootSource := do
  let (word, fields) ← tagged? "sourceType" tree
  if word = "publicImage" then
    let slots ← slots? ["imageProject", "image"] fields
    return .publicImage (← slots.field "imageProject" Source.text?)
      (← slots.field "image" ImageChoice.decode)
  else if word = "customImage" then
    let slots ← slots? ["image"] fields
    return .customImage (← slots.field "image" Source.text?)
  else if word = "snapshot" then
    let slots ← slots? ["snapshot"] fields
    return .snapshot (← slots.field "snapshot" Source.text?)
  else if word = "existingDisk" then
    let slots ← slots? ["disk"] fields
    return .existingDisk (← slots.field "disk" Source.text?)
  else none

/-- The boot disk. -/
def BootDisk.decode (tree : ν) : Option BootDisk := do
  let slots ← slots?
    ["source", "diskType", "sizeGb", "autoDelete", "deviceName", "kmsKey", "snapshotSchedule"] tree
  let source ← slots.fieldOr "source" none (optional BootSource.decode)
  let diskType ← slots.fieldOr "diskType" none optionalText
  let sizeGb ← slots.fieldOr "sizeGb" none optionalInt64Of
  let autoDelete ← slots.fieldOr "autoDelete" true Source.flag?
  let deviceName ← slots.fieldOr "deviceName" none optionalText
  let kmsKey ← slots.fieldOr "kmsKey" none optionalText
  let snapshotSchedule ← slots.fieldOr "snapshotSchedule" none optionalText
  return { source, diskType, sizeGb, autoDelete, deviceName, kmsKey, snapshotSchedule }

/-- A further disk. -/
def ExtraDisk.decode (tree : ν) : Option ExtraDisk := do
  let (word, fields) ← tagged? "mode" tree
  if word = "existing" then
    let slots ← slots? ["disk", "readOnly", "autoDelete", "deviceName"] fields
    return .existing (← slots.field "disk" Source.text?)
      (← slots.fieldOr "readOnly" false Source.flag?)
      (← slots.fieldOr "autoDelete" false Source.flag?)
      (← slots.fieldOr "deviceName" none optionalText)
  else if word = "new" then
    let slots ← slots? ["name", "sizeGb", "diskType", "autoDelete", "kmsKey"] fields
    return .new (← slots.fieldOr "name" none optionalText)
      (← slots.fieldOr "sizeGb" none optionalInt64Of)
      (← slots.fieldOr "diskType" none optionalText)
      (← slots.fieldOr "autoDelete" true Source.flag?)
      (← slots.fieldOr "kmsKey" none optionalText)
  else none

/-- The text of a static address. -/
def staticAddress (fields : Loose) : Option String := do
  let slots ← slots? ["address"] fields
  slots.field "address" Source.text?

/-- An internal address. -/
def InternalAddress.decode (tree : ν) : Option InternalAddress := do
  let (word, fields) ← tagged? "type" tree
  if word = "ephemeral" then (noFields fields).map fun _ => .ephemeral
  else if word = "static" then (staticAddress fields).map fun address => .static address
  else none

/-- An external address. -/
def ExternalAddress.decode (tree : ν) : Option ExternalAddress := do
  let (word, fields) ← tagged? "type" tree
  if word = "none" then (noFields fields).map fun _ => .absent
  else if word = "ephemeral" then (noFields fields).map fun _ => .ephemeral
  else if word = "static" then (staticAddress fields).map fun address => .static address
  else none

/-- A firewall rule in compact form. -/
def RuleText.decode (tree : ν) : Option RuleText := do
  let slots ← slots?
    ["name", "allow", "sourceRanges", "targetTag", "network", "priority", "description"] tree
  let name ← slots.fieldOr "name" "" Source.text?
  let allow ← slots.fieldOr "allow" "" Source.text?
  let sourceRanges ← slots.fieldOr "sourceRanges" "" Source.text?
  let targetTag ← slots.fieldOr "targetTag" "" Source.text?
  let network ← slots.fieldOr "network" none optionalText
  let priority ← slots.fieldOr "priority" none (optional nat32)
  let description ← slots.fieldOr "description" none optionalText
  return { name, allow, sourceRanges, targetTag, network, priority, description }

/-- The network interface, tags and rules. -/
def Networking.decode (tree : ν) : Option Networking := do
  let slots ← slots?
    ["network", "subnetwork", "nicType", "stackType", "networkTier", "internalIp", "externalIp",
      "tags", "firewallRules"] tree
  let network ← slots.fieldOr "network" none optionalText
  let subnetwork ← slots.fieldOr "subnetwork" none optionalText
  let nicType ← slots.fieldOr "nicType" none optionalText
  let stackType ← slots.fieldOr "stackType" none optionalText
  let networkTier ← slots.fieldOr "networkTier" none optionalText
  let internalIp ← slots.fieldOr "internalIp" .ephemeral InternalAddress.decode
  let externalIp ← slots.fieldOr "externalIp" .ephemeral ExternalAddress.decode
  let tags ← slots.fieldOr "tags" [] texts
  let firewallRules ← slots.fieldOr "firewallRules" [] (list RuleText.decode)
  return { network, subnetwork, nicType, stackType, networkTier, internalIp, externalIp, tags,
           firewallRules }

/-- The checks of the boot sequence. -/
def ShieldedVm.decode (tree : ν) : Option ShieldedVm := do
  let slots ← slots? ["secureBoot", "vtpm", "integrityMonitoring"] tree
  let secureBoot ← slots.fieldOr "secureBoot" false Source.flag?
  let vtpm ← slots.fieldOr "vtpm" true Source.flag?
  let integrityMonitoring ← slots.fieldOr "integrityMonitoring" true Source.flag?
  return { secureBoot, vtpm, integrityMonitoring }

/-- Protection of firmware and memory. -/
def Security.decode (tree : ν) : Option Security := do
  let slots ← slots? ["shieldedVm", "confidentialVmType"] tree
  let shieldedVm ← slots.fieldOr "shieldedVm" none (optional ShieldedVm.decode)
  let confidentialVmType ←
    slots.fieldOr "confidentialVmType" none
      (optional (choice ConfidentialType.ofWord? ConfidentialType.all))
  return { shieldedVm, confidentialVmType }

/-- The account and who may log in. -/
def Identity.decode (tree : ν) : Option Identity := do
  let slots ← slots? ["serviceAccount", "scopes", "enableOsLogin", "blockProjectSshKeys"] tree
  let serviceAccount ← slots.fieldOr "serviceAccount" none optionalText
  let scopes ← slots.fieldOr "scopes" [] texts
  let enableOsLogin ← slots.fieldOr "enableOsLogin" none optionalFlagOf
  let blockProjectSshKeys ← slots.fieldOr "blockProjectSshKeys" none optionalFlagOf
  return { serviceAccount, scopes, enableOsLogin, blockProjectSshKeys }

/-- A key with its value. -/
def KeyValue.decode (tree : ν) : Option KeyValue := do
  let slots ← slots? ["key", "value"] tree
  let key ← slots.fieldOr "key" "" Source.text?
  let value ← slots.fieldOr "value" "" Source.text?
  return { key, value }

/-- Metadata, scripts and host behaviour. -/
def Management.decode (tree : ν) : Option Management := do
  let slots ← slots?
    ["metadata", "startupScript", "shutdownScript", "automaticRestart", "onHostMaintenance",
      "maintenancePolicy"] tree
  let metadata ← slots.fieldOr "metadata" [] (list KeyValue.decode)
  let startupScript ← slots.fieldOr "startupScript" none optionalText
  let shutdownScript ← slots.fieldOr "shutdownScript" none optionalText
  let automaticRestart ← slots.fieldOr "automaticRestart" true Source.flag?
  let onHostMaintenance ←
    slots.fieldOr "onHostMaintenance" .migrate
      (choice HostMaintenance.ofWord? HostMaintenance.all)
  let maintenancePolicy ← slots.fieldOr "maintenancePolicy" none optionalText
  return { metadata, startupScript, shutdownScript, automaticRestart, onHostMaintenance,
           maintenancePolicy }

/-- Accelerators of one type. -/
def Accelerator.decode (tree : ν) : Option Accelerator := do
  let slots ← slots? ["acceleratorType", "count"] tree
  let acceleratorType ← slots.fieldOr "acceleratorType" "" Source.text?
  let count ← slots.fieldOr "count" 0 int64
  return { acceleratorType, count }

/-- A constraint on hosts. -/
def NodeAffinity.decode (tree : ν) : Option NodeAffinity := do
  let slots ← slots? ["key", "operator", "values"] tree
  let key ← slots.fieldOr "key" "" Source.text?
  let operator ← slots.fieldOr "operator" "" Source.text?
  let values ← slots.fieldOr "values" [] texts
  return { key, operator, values }

/-- Everything that few machines need. -/
def Advanced.decode (tree : ν) : Option Advanced := do
  let slots ← slots?
    ["accelerators", "nodeAffinities", "resourcePolicies", "labels", "minNodeCpus",
      "enableDisplay", "enableSerialPort", "description", "deletionProtection",
      "canIpForward"] tree
  let accelerators ← slots.fieldOr "accelerators" [] (list Accelerator.decode)
  let nodeAffinities ← slots.fieldOr "nodeAffinities" [] (list NodeAffinity.decode)
  let resourcePolicies ← slots.fieldOr "resourcePolicies" [] texts
  let labels ← slots.fieldOr "labels" [] (list KeyValue.decode)
  let minNodeCpus ← slots.fieldOr "minNodeCpus" none optionalInt64Of
  let enableDisplay ← slots.fieldOr "enableDisplay" false Source.flag?
  let enableSerialPort ← slots.fieldOr "enableSerialPort" none optionalFlagOf
  let description ← slots.fieldOr "description" none optionalText
  let deletionProtection ← slots.fieldOr "deletionProtection" false Source.flag?
  let canIpForward ← slots.fieldOr "canIpForward" false Source.flag?
  return { accelerators, nodeAffinities, resourcePolicies, labels, minNodeCpus, enableDisplay,
           enableSerialPort, description, deletionProtection, canIpForward }

/-- The names of the fields of the spec itself. -/
def specNames : List String :=
  ["instanceName", "project", "region", "zone", "bootDisk", "additionalDisks", "localSsdCount",
    "networking", "security", "identity", "management", "advanced"]

/-- The loose values of the entries that are not fields of the spec itself. -/
def restMembers? (entries : List (String × ν)) : Option (List (String × Loose)) :=
  (entries.filter fun entry => !specNames.contains entry.1).mapM fun entry =>
    (Source.loose? entry.2).map fun value => (entry.1, value)

end VmLaunch.Spec

namespace VmLaunch

open Source Spec in
/-- The whole spec. -/
def MachineSpec.decode {ν : Type} [Source ν] (tree : ν) : Option MachineSpec := do
  let entries ← Source.members? tree
  let slots ← knownSlots? specNames entries
  let rest ← restMembers? entries
  let instanceName ← slots.fieldOr "instanceName" "" Source.text?
  let project ← slots.fieldOr "project" none optionalText
  let region ← slots.fieldOr "region" none optionalText
  let zone ← slots.fieldOr "zone" "" Source.text?
  let machine ← Shape.ofMembers? rest
  let bootDisk ← slots.fieldOr "bootDisk" {} BootDisk.decode
  let additionalDisks ← slots.fieldOr "additionalDisks" [] (list ExtraDisk.decode)
  let localSsdCount ← slots.fieldOr "localSsdCount" 0 int64
  let networking ← slots.fieldOr "networking" {} Networking.decode
  let security ← slots.fieldOr "security" {} Security.decode
  let identity ← slots.fieldOr "identity" {} Identity.decode
  let management ← slots.fieldOr "management" {} Management.decode
  let advanced ← slots.fieldOr "advanced" {} Advanced.decode
  return { instanceName, project, region, zone, machine, bootDisk, additionalDisks, localSsdCount,
           networking, security, identity, management, advanced }

end VmLaunch
