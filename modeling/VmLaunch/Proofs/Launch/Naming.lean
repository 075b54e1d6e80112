import VmLaunch.Proofs.Launch.DryRun
import VmLaunch.Proofs.Request.Naming

/-!
# Names of references

The check refuses blank names, or the sections leave them out, so a checked spec has a name at
the end of every path. There is one exception: nobody looks at the name of a further disk that
exists already.
-/

namespace VmLaunch

open Json (Hop)

namespace Launch

variable {env : Environment} {spec : MachineSpec} {scope : Scope} {resolved : Resolved}

/-- A boot source that needs no lookup was resolved to what it decides on. -/
def DecidesOrigin (spec : MachineSpec) (scope : Scope) (resolved : Resolved) : Prop :=
  ∀ origin, originInquiry spec scope = .decided (.ok origin) → resolved.origin = origin

/-- The lookups for a request decide what the boot disk is made from. -/
theorem resolveCourse_decidesOrigin {steps : List Step}
    (way : resolveCourse env spec scope steps (.ok resolved)) :
    DecidesOrigin spec scope resolved := by
  intro origin decided
  cases way with
  | passed first after =>
    rw [decided] at first
    cases first.2
    cases after with
    | passed _ after =>
      cases after with
      | passed _ silent =>
        cases silent.2
        rfl

/-- A spec that passes its check has no blank name of a machine type or of a boot source. -/
theorem filled_of_check (valid : spec.check = .ok ()) :
    ¬ Text.blank spec.machine.machineType ∧
      ∀ source, spec.bootDisk.source = some source → source.incomplete = false := by
  unfold MachineSpec.check at valid
  split at valid
  · cases valid
  split at valid
  · cases valid
  split at valid
  · cases valid
  split at valid
  · cases valid
  case isFalse filled =>
    refine ⟨filled, fun source given => ?_⟩
    rw [given] at valid
    cases incomplete : source.incomplete with
    | false => rfl
    | true =>
      simp only [incomplete, if_true] at valid
      cases valid

/-- A boot source that needs no lookup is named where its path stands. -/
theorem endNamed_origin {origin : BootOrigin} (decides : DecidesOrigin spec scope resolved)
    (known : originInquiry spec scope = .decided (.ok origin))
    (named : shortName origin.url ≠ "") (tags : List String) :
    EndNamed ((InsertRequest.assemble spec scope resolved tags).encode.parts
      (diskPlace 0 origin.place)) := by
  rw [InsertRequest.parts_bootPlace, decides origin known, Disks.parts_boot_place]
  exact endNamed_singleton_iff.mpr named

/-- In every place that a plain text of a valid spec refers to stand paths with a last segment. -/
theorem endNamed_of_refers (valid : spec.check = .ok ())
    (decides : DecidesOrigin spec scope resolved)
    (named : ∀ disk ∈ spec.additionalDisks, disk.unnamed = false) (tags : List String)
    {text : String} {place : List Hop} (refers : Refers spec text place)
    (plain : '/' ∉ text.toList) :
    EndNamed ((InsertRequest.assemble spec scope resolved tags).encode.parts place) := by
  obtain ⟨typed, complete⟩ := filled_of_check valid
  cases refers with
  | machineType =>
    have single := (mem_trim_slash_iff spec.machine.machineType).not.mpr plain
    have named : shortName (machineTypePath (Text.trim spec.machine.machineType) scope.zone) ≠ "" :=
      shortName_qualify_ne single (by simpa [Text.blank] using typed) _
    rw [InsertRequest.parts_machineType]
    exact endNamed_singleton_iff.mpr named
  | @publicImage imageProject _ source =>
    have inquired : originInquiry spec scope =
        .decided (.ok (.image (imagePath text (Text.trim imageProject)))) := by
      simp only [originInquiry, source]
    refine endNamed_origin decides inquired (shortName_qualify_ne plain ?_ _) tags
    have filled := complete _ source
    simp only [Spec.BootSource.incomplete, Spec.ImageChoice.text, Bool.or_eq_false_iff] at filled
    simpa using filled.2
  | customImage source =>
    have inquired : originInquiry spec scope =
        .decided (.ok (.image (imagePath text scope.project))) := by
      simp only [originInquiry, source]
    refine endNamed_origin decides inquired (shortName_qualify_ne plain ?_ _) tags
    simpa [Spec.BootSource.incomplete] using complete _ source
  | snapshot source =>
    have inquired : originInquiry spec scope =
        .decided (.ok (.snapshot (snapshotPath text scope.project))) := by
      simp only [originInquiry, source]
    refine endNamed_origin decides inquired (shortName_qualify_ne plain ?_ _) tags
    simpa [Spec.BootSource.incomplete] using complete _ source
  | bootDisk source =>
    have inquired : originInquiry spec scope =
        .decided (.ok (.disk (diskPath text scope.project scope.zone))) := by
      simp only [originInquiry, source]
    refine endNamed_origin decides inquired (shortName_qualify_ne plain ?_ _) tags
    simpa [Spec.BootSource.incomplete] using complete _ source
  | bootType asked =>
    rw [paramPlace, InsertRequest.parts_bootPlace]
    exact Disks.endNamed_bootType resolved.origin
  | schedule asked =>
    rw [InsertRequest.parts_bootPlace]
    exact Disks.endNamed_schedule asked plain resolved.origin
  | extraDisk listed =>
    rw [InsertRequest.parts_extraPlace listed, Disks.endNamed_extraDisk_iff plain]
    exact (Bool.not_eq_true _).mpr (named _ (List.mem_of_getElem? listed))
  | extraType listed =>
    rw [paramPlace, InsertRequest.parts_extraPlace listed]
    exact Disks.endNamed_extraType plain _ _ _ _ _ _
  | network asked =>
    rw [InsertRequest.parts_interface]
    exact NetworkInterface.endNamed_network asked plain _
  | subnetwork asked =>
    rw [InsertRequest.parts_interface]
    exact NetworkInterface.endNamed_subnetwork asked plain _

/-- The request of a checked spec has a name at the end of every path if every further disk that
exists has one. -/
theorem assemble_named_iff (valid : spec.check = .ok ())
    (decides : DecidesOrigin spec scope resolved) (tags : List String) :
    Named spec (InsertRequest.assemble spec scope resolved tags).encode ↔
      ∀ disk ∈ spec.additionalDisks, disk.unnamed = false := by
  constructor
  · intro named disk member
    obtain ⟨index, listed⟩ := List.getElem?_of_mem member
    cases disk with
    | new name sizeGb diskType autoDelete kmsKey => rfl
    | existing disk readOnly autoDelete deviceName =>
      -- Blank text has no separator, so its path is among those that must end in a name.
      refine Bool.eq_false_iff.mpr fun blank => ?_
      have plain := not_mem_of_blank blank
      have ends := named.single disk _ (.extraDisk listed) plain
      rw [InsertRequest.parts_extraPlace listed, Disks.endNamed_extraDisk_iff plain] at ends
      exact ends blank
  · intro named
    constructor
    case single =>
      intro text place refers plain
      exact endNamed_of_refers valid decides named tags refers plain
    case accelerators =>
      rw [InsertRequest.parts_accelerators]
      exact GuestAccelerator.pathsFor_ofSpecs scope spec.advanced.accelerators
    case policies =>
      rw [InsertRequest.parts_policies]
      exact ResourcePolicies.pathsFor_ofSpec spec scope

/-- A dry run that comes to a request has passed the check, and the request is composed of what
the spec decides on. -/
theorem plan_eq_ok {world : World} {request : InsertRequest}
    (planned : (plan env spec world).1 = .ok request) :
    spec.check = .ok () ∧ ∃ resolved tags, DecidesOrigin spec (spec.scope env.project) resolved ∧
      request = InsertRequest.assemble spec (spec.scope env.project) resolved tags := by
  cases valid : spec.check with
  | error cause =>
    rw [plan_of_invalid valid] at planned
    cases planned
  | ok value =>
    refine ⟨rfl, ?_⟩
    obtain ⟨-, rules, complete⟩ := rules_of_check valid
    obtain ⟨steps, -, -, course⟩ := plan_harmless env spec world
    have way := course rules valid complete
    rw [planned] at way
    cases way with
    | passed resolving silent =>
      cases silent.2
      exact ⟨_, _, resolveCourse_decidesOrigin resolving, rfl⟩

/-- A dry run comes to a request for checked specs only, and every path in the request that is
made from a name ends in one, unless a further disk that exists has a blank name. -/
theorem plan_named_iff {world : World} {request : InsertRequest}
    (planned : (plan env spec world).1 = .ok request) :
    spec.check = .ok () ∧ (Named spec request.encode ↔
      ∀ disk ∈ spec.additionalDisks, disk.unnamed = false) := by
  obtain ⟨valid, resolved, tags, decides, rfl⟩ := plan_eq_ok planned
  exact ⟨valid, assemble_named_iff valid decides tags⟩

/-- A checked spec whose references need no lookup is planned without a call. -/
theorem plan_of_decided {origin : BootOrigin} (valid : spec.check = .ok ())
    (known : originInquiry spec (spec.scope env.project) = .decided (.ok origin))
    (internal : internalInquiry spec (spec.scope env.project) = .decided (.ok none))
    (external : externalInquiry spec (spec.scope env.project) = .decided (.ok none))
    (world : World) : ∃ request, (plan env spec world).1 = .ok request := by
  obtain ⟨-, rules, complete⟩ := rules_of_check valid
  refine ⟨InsertRequest.assemble spec (spec.scope env.project) ⟨origin, {}⟩
    (rules.map FirewallRule.targetTag), ?_⟩
  simp only [plan, checkSpec, rulesOf, valid, complete, resolve, resolveOrigin_eq_perform,
    resolveInternal_eq_perform, resolveExternal_eq_perform, known, internal, external,
    Inquiry.perform]
  rfl

/-- A machine with blank texts in many places and a disk that exists already. -/
def mountedSpec (disk : String) : MachineSpec where
  instanceName := "web"
  zone := "europe-west1-b"
  machine := { machineType := " e2-small" }
  bootDisk := {
    source := some (.customImage "base ")
    snapshotSchedule := some " " }
  additionalDisks := [.existing disk false false none, .new none none (some " ") true none]
  networking := { network := some " ", subnetwork := some "front " }
  management := { maintenancePolicy := some " weekly" }
  advanced := {
    accelerators := [⟨" ", 1⟩, ⟨"nvidia-t4", 1⟩]
    resourcePolicies := ["", "weekly", "projects/p/regions/r/resourcePolicies/"] }

/-- The spec that mounts a disk is planned, whatever the name of the disk. -/
theorem plan_mountedSpec (disk : String) :
    ∃ request, (plan promptProvider (mountedSpec disk) {}).1 = .ok request := by
  have valid : (mountedSpec disk).check = .ok () := by
    change (mountedSpec "").check = .ok ()
    decide +kernel
  have known : originInquiry (mountedSpec disk) ((mountedSpec disk).scope promptProvider.project) =
      .decided (.ok (.image _)) := rfl
  exact plan_of_decided valid known rfl rfl {}

/-- Blank texts leave no trace in a request, but for the name of a disk that exists. -/
theorem plan_named_iff_mountedSpec :
    (∃ request, (plan promptProvider (mountedSpec " data") {}).1 = .ok request ∧
      Named (mountedSpec " data") request.encode) ∧
    ∃ request, (plan promptProvider (mountedSpec " ") {}).1 = .ok request ∧
      ¬ Named (mountedSpec " ") request.encode := by
  obtain ⟨mounted, planned⟩ := plan_mountedSpec " data"
  obtain ⟨unmounted, alike⟩ := plan_mountedSpec " "
  refine ⟨⟨mounted, planned, (plan_named_iff planned).2.mpr ?_⟩, unmounted, alike, fun named => ?_⟩
  · decide +kernel
  · exact absurd ((plan_named_iff alike).2.mp named) (by decide +kernel)

/-- A checked spec may be planned with a path that ends in nothing. -/
theorem not_always_named :
    ¬ ∀ (env : Environment) (spec : MachineSpec) (world : World) (request : InsertRequest),
        spec.check = .ok () → (plan env spec world).1 = .ok request →
          Named spec request.encode := by
  intro always
  obtain ⟨request, planned⟩ := plan_mountedSpec " "
  obtain ⟨valid, resolved, tags, decides, rfl⟩ := plan_eq_ok planned
  have named := always promptProvider _ {} _ valid planned
  exact absurd ((assemble_named_iff valid decides tags).mp named) (by decide +kernel)

end Launch

end VmLaunch
