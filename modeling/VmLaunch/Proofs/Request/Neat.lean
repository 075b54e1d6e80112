import VmLaunch.Proofs.Request.Tags
import VmLaunch.Proofs.Text.Blank

/-!
# Neat sections

The names that a person writes into a spec reach a request without the blanks around them, and a
section that would be empty is left out with them. `Neat` says for each section what its builder
owes to that, and `InsertRequest.Neat` collects it for a whole request.
-/

namespace VmLaunch

open Text (Tidy)

variable {key value : String}

namespace Metadata

/-- The key of every item is tidy. -/
def Neat (items : Metadata) : Prop :=
  ∀ item ∈ items, Tidy item.1

variable {items : Metadata}

/-- Metadata stay neat when a tidy key is put. -/
theorem neat_put (neat : items.Neat) (tidy : Tidy key) : (put key value items).Neat := by
  induction items with
  | nil => simpa [put, Neat] using tidy
  | cons first rest inductionHypothesis =>
    obtain ⟨head, tail⟩ := List.forall_mem_cons.mp neat
    rw [put]
    split
    · exact List.forall_mem_cons.mpr ⟨head, tail⟩
    · exact List.forall_mem_cons.mpr ⟨head, inductionHypothesis tail⟩

/-- Metadata stay neat when a key is set, since a blank one is not. -/
theorem neat_set (neat : items.Neat) : (items.set key value).Neat := by
  unfold set
  cases kept : Text.filled? key with
  | none => exact neat
  | some trimmed => exact neat_put neat (Text.tidy_of_filled? kept)

/-- Metadata stay neat when a flag is set. -/
theorem neat_setFlag (neat : items.Neat) (flag : Option Bool) : (items.setFlag key flag).Neat := by
  cases flag with
  | none => exact neat
  | some flag => exact neat_set neat

/-- Metadata stay neat when a script is set. -/
theorem neat_setScript (neat : items.Neat) (script : Option String) :
    (items.setScript key script).Neat := by
  cases script with
  | none => exact neat
  | some script =>
    unfold setScript
    by_cases blank : Text.blank script
    · simpa only [blank, if_true] using neat
    · simpa only [blank, Bool.false_eq_true, if_false] using neat_set neat

/-- Metadata stay neat when own items are set one by one. -/
theorem neat_foldl_set (neat : items.Neat) (own : List Spec.KeyValue) :
    (own.foldl (fun items kv => set items kv.key kv.value) items).Neat := by
  induction own generalizing items with
  | nil => exact neat
  | cons first rest inductionHypothesis => exact inductionHypothesis (neat_set neat)

/-- The metadata of a spec are neat. -/
theorem neat_ofSpec (spec : MachineSpec) : (ofSpec spec).Neat := by
  have empty : Neat [] := fun _ => nofun
  have own := neat_foldl_set empty spec.management.metadata
  exact neat_setFlag (neat_setFlag (neat_setFlag
    (neat_setScript (neat_setScript own _) _) _) _) _

end Metadata

namespace Labels

/-- The key of every label is tidy. -/
def Neat (labels : List (String × String)) : Prop :=
  ∀ label ∈ labels, Tidy label.1

variable {labels : List (String × String)}

/-- Labels stay neat when a tidy key is inserted. -/
theorem neat_insert (neat : Neat labels) (tidy : Tidy key) : Neat (insert key value labels) := by
  induction labels with
  | nil => simpa [insert, Neat] using tidy
  | cons first rest inductionHypothesis =>
    obtain ⟨head, tail⟩ := List.forall_mem_cons.mp neat
    rw [insert]
    split
    · exact neat
    split
    · exact List.forall_mem_cons.mpr ⟨tidy, neat⟩
    · exact List.forall_mem_cons.mpr ⟨head, inductionHypothesis tail⟩

/-- Labels stay neat when one is added, since a blank one is not. -/
theorem neat_add (neat : Neat labels) (kv : Spec.KeyValue) : Neat (add labels kv) := by
  unfold add
  cases kept : Text.filled? kv.key with
  | none => exact neat
  | some trimmed => exact neat_insert neat (Text.tidy_of_filled? kept)

/-- The labels of a spec are neat. -/
theorem neat_ofSpec (own : List Spec.KeyValue) : Neat (ofSpec own) := by
  have folded : ∀ {labels}, Neat labels → Neat (own.foldl add labels) := by
    induction own with
    | nil => exact id
    | cons first rest inductionHypothesis =>
      exact fun neat => inductionHypothesis (neat_add neat first)
  exact folded fun _ => nofun

end Labels

namespace ServiceAccount

/-- The address and every scope of an account are tidy, and it has a scope. -/
structure Neat (account : ServiceAccount) : Prop where
  email : Tidy account.email
  granted : account.scopes ≠ []
  scopes : ∀ scope ∈ account.scopes, Tidy scope

/-- A service account that is named is neat. -/
theorem neat_of_ofSpec? {identity : Spec.Identity} {account : ServiceAccount}
    (made : ofSpec? identity = some account) : account.Neat := by
  have email : Tidy ((Text.given? identity.serviceAccount).getD defaultEmail) := by
    cases given : Text.given? identity.serviceAccount with
    | none => exact (by decide +kernel : Tidy "default")
    | some email => exact Text.tidy_of_given? given
  have platform : Tidy platformScope := by decide +kernel
  have own : ∀ scope ∈ normalScopes identity.scopes, Tidy scope := fun _ =>
    Text.tidy_of_mem_filledAll
  unfold ofSpec? at made
  split at made
  case h_1 => cases made
  case h_2 =>
    cases made
    exact ⟨email, List.cons_ne_nil _ _, by simpa using platform⟩
  case h_3 first rest scopes =>
    cases made
    rw [scopes] at own
    exact ⟨email, List.cons_ne_nil _ _, own⟩

end ServiceAccount

namespace HostAffinity

/-- The key and every value of an affinity are tidy, and it has a value. -/
structure Neat (affinity : HostAffinity) : Prop where
  key : Tidy affinity.key
  valued : affinity.values ≠ []
  values : ∀ value ∈ affinity.values, Tidy value

/-- An affinity that is asked for is neat. -/
theorem neat_of_ofSpec? {asked : Spec.NodeAffinity} {affinity : HostAffinity}
    (made : ofSpec? asked = some affinity) : affinity.Neat := by
  have own : ∀ value ∈ Text.filledAll asked.values, Tidy value := fun _ =>
    Text.tidy_of_mem_filledAll
  unfold ofSpec? at made
  split at made
  case h_1 key first rest kept values =>
    cases made
    rw [values] at own
    exact ⟨Text.tidy_of_filled? kept, List.cons_ne_nil _ _, own⟩
  case h_2 => cases made

end HostAffinity

namespace AttachedDisk

/-- The device and the encryption key of a disk have tidy names, if any. -/
structure Neat (disk : AttachedDisk) : Prop where
  device : ∀ name ∈ disk.deviceName, Tidy name
  key : ∀ name ∈ disk.kmsKey, Tidy name

end AttachedDisk

namespace Disks

/-- The boot disk is neat. -/
theorem boot_neat (config : Spec.BootDisk) (origin : BootOrigin) (scope : Scope) :
    (boot config origin scope).Neat :=
  ⟨fun _ => Text.tidy_of_given?, fun _ => Text.tidy_of_given?⟩

/-- A further disk is neat. -/
theorem extra_neat (instanceName : String) (scope : Scope) (index : Nat)
    (asked : Spec.ExtraDisk) : (extra instanceName scope index asked).Neat := by
  cases asked with
  | existing disk readOnly autoDelete deviceName => exact ⟨fun _ => Text.tidy_of_given?, nofun⟩
  | new name sizeGb diskType autoDelete kmsKey =>
    unfold extra
    by_cases scratch : shortName ((Text.given? diskType).getD defaultType) == localSsdType
    · simp only [scratch, if_true]
      exact ⟨nofun, nofun⟩
    · simp only [scratch, Bool.false_eq_true, if_false]
      exact ⟨nofun, fun _ => Text.tidy_of_given?⟩

/-- All further disks are neat. -/
theorem extrasFrom_neat {instanceName : String} {scope : Scope} {start : Nat}
    {asked : List Spec.ExtraDisk} : ∀ disk ∈ extrasFrom instanceName scope start asked,
      disk.Neat := by
  induction asked generalizing start with
  | nil => simp [extrasFrom]
  | cons first rest inductionHypothesis =>
    exact List.forall_mem_cons.mpr ⟨extra_neat _ scope start first, inductionHypothesis⟩

/-- All local SSDs are neat. -/
theorem localSsds_neat (count : Int64) (project zone : String) :
    ∀ disk ∈ localSsds count project zone, disk.Neat := by
  have numbered : ∀ index < maxLocalSsds, Tidy ("local-ssd-" ++ toString index) := by
    decide +kernel
  intro disk member
  obtain ⟨index, ranged, rfl⟩ := List.mem_map.mp member
  have below : index < maxLocalSsds :=
    Nat.lt_of_lt_of_le (List.mem_range.mp ranged) (Nat.min_le_right _ _)
  refine ⟨fun name named => ?_, nofun⟩
  obtain rfl := Option.some.inj named
  exact numbered index below

end Disks

/-- An interface is on a network or on a subnetwork. -/
theorem NetworkInterface.placed (config : Spec.Networking) (scope : Scope)
    (addresses : StaticAddresses) :
    (ofSpec config scope addresses).network.isSome ∨
      (ofSpec config scope addresses).subnetwork.isSome := by
  unfold ofSpec networkOf
  cases Text.given? config.network <;> cases Text.given? config.subnetwork <;> simp

namespace InsertRequest

/-- Every list that is always sent has a member, and every name is tidy. -/
structure Neat (request : InsertRequest) : Prop where
  booted : request.disks ≠ []
  placed : request.interface.network.isSome ∨ request.interface.subnetwork.isSome
  disks : ∀ disk ∈ request.disks, disk.Neat
  tags : ∀ tag ∈ request.tags, Tidy tag
  distinct : request.tags.Nodup
  labels : Labels.Neat request.labels
  metadata : request.metadata.Neat
  account : ∀ account ∈ request.serviceAccount, account.Neat
  affinities : ∀ affinity ∈ request.scheduling.nodeAffinities, affinity.Neat

/-- Every request that is assembled is neat. -/
theorem assemble_neat (spec : MachineSpec) (scope : Scope) (resolved : Resolved)
    (ruleTags : List String) : (assemble spec scope resolved ruleTags).Neat where
  booted := List.cons_ne_nil _ _
  placed := NetworkInterface.placed spec.networking scope resolved.addresses
  disks := by
    refine List.forall_mem_cons.mpr ⟨Disks.boot_neat _ _ _, ?_⟩
    exact List.forall_mem_append.mpr ⟨Disks.extrasFrom_neat, Disks.localSsds_neat _ _ _⟩
  tags := fun tag member =>
    Text.tidy_of_mem_filledAll (List.mem_eraseDups.mp member)
  distinct := Text.nodup_eraseDups _
  labels := Labels.neat_ofSpec _
  metadata := Metadata.neat_ofSpec spec
  account := fun _ => ServiceAccount.neat_of_ofSpec?
  affinities := by
    have asked : (assemble spec scope resolved ruleTags).scheduling.nodeAffinities =
        spec.advanced.nodeAffinities.filterMap HostAffinity.ofSpec? := by
      unfold assemble Scheduling.ofSpec
      cases spec.machine.provisioningModel <;> rfl
    intro affinity member
    rw [asked] at member
    obtain ⟨source, -, made⟩ := List.mem_filterMap.mp member
    exact HostAffinity.neat_of_ofSpec? made

end InsertRequest

end VmLaunch
