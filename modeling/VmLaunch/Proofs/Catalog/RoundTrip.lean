import VmLaunch.Catalog.Entry.Compute
import VmLaunch.Catalog.Entry.Network
import VmLaunch.Catalog.Entry.Place
import VmLaunch.Catalog.Entry.Storage
import VmLaunch.Proofs.Json.Members
import VmLaunch.Proofs.Source.Form

/-!
# Entries of the catalog are read back

An entry is encoded with every field, so it is read back from its encoding. Only the schedules of a
resource policy are kept as they are given; an entry that was read has none that is `null`.
-/

namespace VmLaunch

open Source

namespace Lenient

/-- A number of 64 bits is read back from its value. -/
@[simp]
theorem nat64_int (n : UInt64) : nat64 (Json.int n.toNat) = some n := by
  have read : nat64 (Json.int n.toNat) = Source.nat64 (Json.int n.toNat) := rfl
  rw [read]
  exact Form.value.nat64_tree n

/-- A number of 64 bits is read back as what it was written as. -/
@[simp]
theorem nat64_tree (n : UInt64) : nat64 (Form.value.tree (encode n)) = some n :=
  nat64_int n

end Lenient

/-- What a rule lets in is read back. -/
theorem AllowEntry.decode_tree {ν : Type} [Source ν] (form : Form ν) (entry : AllowEntry) :
    AllowEntry.decode (form.tree entry.encode) = some entry := by
  obtain ⟨protocol, ports⟩ := entry
  cases ports <;>
  · apply Form.bind_slots? (by simp [Json.memberWhenAny])
    intro slots holds
    simp [holds.field, holds.fieldOr, Json.memberWhenAny]

/-- A record is read from an object when it can be read from all slots that hold its members. -/
theorem bind_slots?_obj {α : Type} {names : List String} {members : List (String × Json)}
    (distinct : (members.map Prod.fst).Nodup) {read : Slots Json → Option α} {value : α}
    (reads : ∀ slots, Form.value.Holds names slots members → read slots = some value) :
    slots? names (Json.obj members) >>= read = some value :=
  Form.bind_slots? distinct reads

/-- A region is read back. -/
theorem Region.decode_encode (region : Region) : decode region.encode = some region := by
  apply bind_slots?_obj (by simp)
  intro slots holds
  simp [holds.fieldOr]

/-- A machine type is read back. -/
theorem MachineType.decode_encode (machine : MachineType) :
    decode machine.encode = some machine := by
  apply bind_slots?_obj
  · cases machine.estimatedMonthlyCost <;> simp [Json.memberWhen]
  intro slots holds
  have estimate : slots.fieldOr "estimatedMonthlyCost" none optionalText =
      some machine.estimatedMonthlyCost :=
    holds.optional (by simp) Json.str (by simp) (fun _ _ => Form.text?_tree _ _) fun _ _ => rfl
  simp only [estimate]
  simp [holds.fieldOr]

/-- The record of a deprecation is read back. -/
theorem Deprecation.decode_encode (record : Deprecation) : decode record.encode = some record := by
  apply bind_slots?_obj (by simp)
  intro slots holds
  simp [holds.fieldOr]

/-- An image is read back, with its record. -/
theorem Image.decode_encode (image : Image) : decode image.encode = some image := by
  apply bind_slots?_obj
  · cases image.deprecated <;> simp [Json.memberWhen]
  intro slots holds
  have deprecated : slots.fieldOr "deprecated" none (optional Deprecation.decode) =
      some image.deprecated :=
    holds.optional (by simp) Deprecation.encode (by simp)
      (fun _ _ => Deprecation.decode_encode _) fun _ _ => rfl
  simp only [deprecated]
  simp [holds.fieldOr]

/-- A disk type is read back. -/
theorem DiskType.decode_encode (type : DiskType) : decode type.encode = some type := by
  apply bind_slots?_obj (by simp)
  intro slots holds
  simp [holds.fieldOr]

/-- A disk is read back. -/
theorem Disk.decode_encode (disk : Disk) : decode disk.encode = some disk := by
  apply bind_slots?_obj (by simp)
  intro slots holds
  simp [holds.fieldOr]

/-- A snapshot is read back. -/
theorem Snapshot.decode_encode (snapshot : Snapshot) : decode snapshot.encode = some snapshot := by
  apply bind_slots?_obj (by simp)
  intro slots holds
  simp [holds.fieldOr]

/-- A network is read back. -/
theorem Network.decode_encode (network : Network) : decode network.encode = some network := by
  apply bind_slots?_obj (by simp)
  intro slots holds
  simp [holds.fieldOr]

/-- A subnetwork is read back. -/
theorem Subnetwork.decode_encode (subnetwork : Subnetwork) :
    decode subnetwork.encode = some subnetwork := by
  apply bind_slots?_obj (by simp)
  intro slots holds
  simp [holds.fieldOr]

/-- A reserved address is read back. -/
theorem ReservedAddress.decode_encode (address : ReservedAddress) :
    decode address.encode = some address := by
  apply bind_slots?_obj (by simp)
  intro slots holds
  simp [holds.fieldOr]

/-- A listed rule is read back, with what it lets in. -/
theorem ListedRule.decode_encode (rule : ListedRule) : decode rule.encode = some rule := by
  apply bind_slots?_obj (by simp)
  intro slots holds
  simp [holds.fieldOr, Form.list_tree (AllowEntry.decode_tree .value)]

namespace ResourcePolicy

/-- No schedule of a policy is `null`. -/
def Scheduled (policy : ResourcePolicy) : Prop :=
  ∀ schedule ∈ [policy.snapshotSchedule, policy.instanceSchedule, policy.groupPlacement],
    ∀ body ∈ schedule, body.isNull = false

/-- A policy without `null` for a schedule is read back from its encoding. -/
theorem decode_encode {policy : ResourcePolicy} (scheduled : policy.Scheduled) :
    decode policy.encode = some policy := by
  apply bind_slots?_obj
  · cases policy.snapshotSchedule <;> cases policy.instanceSchedule <;>
      cases policy.groupPlacement <;> simp [Json.memberWhen]
  intro slots holds
  have snapshot : slots.fieldOr "snapshotSchedulePolicy" none (optional some) =
      some policy.snapshotSchedule :=
    holds.optional (by simp) id (by simp [List.lookup_append]) (fun _ _ => rfl)
      (scheduled _ (by simp))
  have onOff : slots.fieldOr "instanceSchedulePolicy" none (optional some) =
      some policy.instanceSchedule :=
    holds.optional (by simp) id (by simp [List.lookup_append]) (fun _ _ => rfl)
      (scheduled _ (by simp))
  have placement : slots.fieldOr "groupPlacementPolicy" none (optional some) =
      some policy.groupPlacement :=
    holds.optional (by simp) id (by simp [List.lookup_append]) (fun _ _ => rfl)
      (scheduled _ (by simp))
  simp only [snapshot, onOff, placement]
  simp [holds.fieldOr]

end ResourcePolicy

/-- The kinds of entries that the provider lists. -/
inductive EntryKind where
  | region
  | machineType
  | image
  | disk
  | diskType
  | snapshot
  | resourcePolicy
  | network
  | subnetwork
  | address
  | firewall
  deriving DecidableEq

namespace EntryKind

/-- The entries of a kind. -/
def Entry : EntryKind → Type
  | region => Region
  | machineType => MachineType
  | image => Image
  | disk => Disk
  | diskType => DiskType
  | snapshot => Snapshot
  | resourcePolicy => ResourcePolicy
  | network => Network
  | subnetwork => Subnetwork
  | address => ReservedAddress
  | firewall => ListedRule

/-- The entry of a kind that a value says. -/
def decode : (kind : EntryKind) → Json → Option kind.Entry
  | region => Region.decode
  | machineType => MachineType.decode
  | image => Image.decode
  | disk => Disk.decode
  | diskType => DiskType.decode
  | snapshot => Snapshot.decode
  | resourcePolicy => ResourcePolicy.decode
  | network => Network.decode
  | subnetwork => Subnetwork.decode
  | address => ReservedAddress.decode
  | firewall => ListedRule.decode

/-- The value of an entry of a kind. -/
def encode : (kind : EntryKind) → kind.Entry → Json
  | region => Region.encode
  | machineType => MachineType.encode
  | image => Image.encode
  | disk => Disk.encode
  | diskType => DiskType.encode
  | snapshot => Snapshot.encode
  | resourcePolicy => ResourcePolicy.encode
  | network => Network.encode
  | subnetwork => Subnetwork.encode
  | address => ReservedAddress.encode
  | firewall => ListedRule.encode

end EntryKind

end VmLaunch
