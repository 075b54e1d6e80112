import Mathlib.Data.List.Forall2
import VmLaunch.Proofs.Request.Wire

/-!
# Paths of names

Text without a separator is put below a parent, so blank text would give a path that ends in
nothing. `Refers` says where the path of each text stands, `Named` that no path ends so. What
each section owes to that is shown here; most of them leave blank text out.
-/

namespace VmLaunch

open Json (Hop)
open Text (Tidy)

/-- Whether a further disk exists already and has a blank name. -/
def Spec.ExtraDisk.unnamed : Spec.ExtraDisk → Bool
  | .existing disk _ _ _ => Text.blank disk
  | .new _ _ _ _ _ => false

/-- Where something of one disk stands. -/
def diskPlace (index : Nat) (rest : List Hop) : List Hop :=
  .member "disks" :: .item index :: rest

/-- Where a parameter of one new disk stands. -/
def paramPlace (index : Nat) (key : String) : List Hop :=
  diskPlace index [.member "initializeParams", .member key]

/-- Where the path of a boot source stands. -/
def BootOrigin.place : BootOrigin → List Hop
  | .image _ => [.member "initializeParams", .member "sourceImage"]
  | .snapshot _ => [.member "initializeParams", .member "sourceSnapshot"]
  | .disk _ => [.member "source"]

/-- The path of a boot source. -/
def BootOrigin.url : BootOrigin → String
  | .image url => url
  | .snapshot url => url
  | .disk url => url

/-- A text of a spec refers to the resource whose path stands in a place of the request. Further
disks stand behind the boot disk. -/
inductive Refers (spec : MachineSpec) : String → List Hop → Prop where
  | machineType : Refers spec spec.machine.machineType [.member "machineType"]
  | publicImage {imageProject name}
      (source : spec.bootDisk.source = some (.publicImage imageProject (.name name))) :
      Refers spec name (paramPlace 0 "sourceImage")
  | customImage {image} (source : spec.bootDisk.source = some (.customImage image)) :
      Refers spec image (paramPlace 0 "sourceImage")
  | snapshot {snapshot} (source : spec.bootDisk.source = some (.snapshot snapshot)) :
      Refers spec snapshot (paramPlace 0 "sourceSnapshot")
  | bootDisk {disk} (source : spec.bootDisk.source = some (.existingDisk disk)) :
      Refers spec disk (diskPlace 0 [.member "source"])
  | bootType {diskType} (asked : spec.bootDisk.diskType = some diskType) :
      Refers spec diskType (paramPlace 0 "diskType")
  | schedule {policy} (asked : spec.bootDisk.snapshotSchedule = some policy) :
      Refers spec policy (diskPlace 0 [.member "initializeParams", .member "resourcePolicies",
        .items])
  | extraDisk {index disk readOnly autoDelete deviceName}
      (listed : spec.additionalDisks[index]? =
        some (.existing disk readOnly autoDelete deviceName)) :
      Refers spec disk (diskPlace (index + 1) [.member "source"])
  | extraType {index name sizeGb diskType autoDelete kmsKey}
      (listed : spec.additionalDisks[index]? =
        some (.new name sizeGb (some diskType) autoDelete kmsKey)) :
      Refers spec diskType (paramPlace (index + 1) "diskType")
  | network {network} (asked : spec.networking.network = some network) :
      Refers spec network [.member "networkInterfaces", .item 0, .member "network"]
  | subnetwork {subnetwork} (asked : spec.networking.subnetwork = some subnetwork) :
      Refers spec subnetwork [.member "networkInterfaces", .item 0, .member "subnetwork"]

/-- A path for a text: the text itself when it is a path, else a path that ends in it. -/
structure PathFor (url text : String) : Prop where
  path : '/' ∈ text.toList → url = Text.trim text
  name : '/' ∉ text.toList → shortName url = Text.trim text ∧ shortName url ≠ ""

/-- Paths for some of the texts, in the order of the texts. -/
def PathsFor (texts : List String) (parts : List Json) : Prop :=
  ∃ urls : List String, parts = urls.map Json.str ∧ urls.SublistForall₂ PathFor texts

/-- Paths, each with a last segment. -/
def EndNamed (parts : List Json) : Prop :=
  ∀ part ∈ parts, ∃ url, part = .str url ∧ shortName url ≠ ""

/-- No path in a request that was made from a name ends in nothing. -/
structure Named (spec : MachineSpec) (body : Json) : Prop where
  single : ∀ text place, Refers spec text place → '/' ∉ text.toList → EndNamed (body.parts place)
  accelerators :
    PathsFor (spec.advanced.accelerators.map Spec.Accelerator.acceleratorType)
      (body.parts [.member "guestAccelerators", .items, .member "acceleratorType"])
  policies :
    PathsFor (spec.management.maintenancePolicy.toList ++ spec.advanced.resourcePolicies)
      (body.parts [.member "resourcePolicies", .items])

section Paths

variable {text parent : String}

/-- A plain name that is not blank has a last segment once it is qualified. -/
theorem shortName_qualify_ne (plain : '/' ∉ text.toList) (filled : ¬ Text.blank text)
    (parent : String) : shortName (qualify parent text) ≠ "" := by
  rw [shortName_qualify plain]
  exact fun empty => filled (beq_iff_eq.mpr empty)

/-- What is kept of a text stands for it below any parent. -/
theorem pathFor_of_filled? {kept : String} (filled : Text.filled? text = some kept)
    (parent : String) : PathFor (qualify parent kept) text := by
  obtain ⟨rfl, present⟩ := Text.filled?_eq_some_iff.mp filled
  constructor
  case path =>
    intro separated
    exact qualify_of_mem ((mem_trim_slash_iff text).mpr separated) parent
  case name =>
    intro plain
    rw [shortName_qualify ((mem_trim_slash_iff text).not.mpr plain), Text.trim_trim]
    exact ⟨rfl, present⟩

/-- What some values are mapped to are images of them, in their order. -/
theorem sublistForall₂_filterMap {α β : Type} {relation : β → α → Prop} {f : α → Option β}
    (each : ∀ value image, f value = some image → relation image value) (values : List α) :
    (values.filterMap f).SublistForall₂ relation values := by
  induction values with
  | nil => exact .nil
  | cons first rest inductionHypothesis =>
    cases kept : f first with
    | none =>
      rw [List.filterMap_cons_none kept]
      exact .cons_right inductionHypothesis
    | some image =>
      rw [List.filterMap_cons_some kept]
      exact .cons (each first image kept) inductionHypothesis

/-- Fewer images are still images of the values, in their order. -/
theorem sublistForall₂_of_sublist {α β : Type} {relation : β → α → Prop} {fewer images : List β}
    {values : List α} (kept : fewer.Sublist images)
    (related : images.SublistForall₂ relation values) :
    fewer.SublistForall₂ relation values := by
  induction related generalizing fewer with
  | nil =>
    rw [List.sublist_nil.mp kept]
    exact .nil
  | cons head _ inductionHypothesis =>
    cases kept with
    | cons _ others => exact .cons_right (inductionHypothesis others)
    | cons_cons _ others => exact .cons head (inductionHypothesis others)
  | cons_right _ inductionHypothesis => exact .cons_right (inductionHypothesis kept)

end Paths

namespace AttachedDisk

variable {disk : AttachedDisk}

/-- In the place of the source stands that of a disk which exists. -/
theorem parts_source {source : String} {readOnly : Bool}
    (content : disk.content = .existing source readOnly) :
    disk.encode.parts [.member "source"] = [.str source] := by
  simp [(Disks.shows_encode disk).source, content]

/-- The parameters of a disk that is created are those of the new disk. -/
theorem parts_params_created {made : NewDisk} (content : disk.content = .created made)
    (rest : List Hop) :
    disk.encode.parts (.member "initializeParams" :: rest) = made.encode.parts rest := by
  simp [(Disks.shows_encode disk).params, content]

/-- The parameters of a scratch disk say its type. -/
theorem parts_params_scratch {diskType : String} (content : disk.content = .scratch diskType) :
    disk.encode.parts [.member "initializeParams", .member "diskType"] = [.str diskType] := by
  simp [(Disks.shows_encode disk).params, content]

/-- A disk that exists has no parameters. -/
theorem parts_params_existing {source : String} {readOnly : Bool}
    (content : disk.content = .existing source readOnly) (rest : List Hop) :
    disk.encode.parts (.member "initializeParams" :: rest) = [] := by
  simp [(Disks.shows_encode disk).params, content]

end AttachedDisk

/-- Among no paths all have a last segment. -/
@[simp]
theorem endNamed_nil : EndNamed [] :=
  fun _ => nofun

/-- A single path has a last segment when its short name is not empty. -/
@[simp]
theorem endNamed_singleton_iff {url : String} : EndNamed [.str url] ↔ shortName url ≠ "" := by
  simp [EndNamed]

/-- What is kept of a text is named below any parent. -/
theorem endNamed_of_filled? {text kept : String} (filled : Text.filled? text = some kept)
    (plain : '/' ∉ text.toList) (parent : String) : EndNamed [.str (qualify parent kept)] :=
  endNamed_singleton_iff.mpr ((pathFor_of_filled? filled parent).name plain).2

namespace InsertRequest

variable {spec : MachineSpec} {scope : Scope} {resolved : Resolved} {tags : List String}

/-- What stands in a place of one disk stands in that disk. -/
theorem parts_diskPlace (request : InsertRequest) (index : Nat) (rest : List Hop) :
    request.encode.parts (diskPlace index rest) =
      request.disks[index]?.toList.flatMap fun disk => disk.encode.parts rest := by
  cases found : request.disks[index]? <;>
    simp [diskPlace, encode, List.lookup_append, found]

/-- What stands in a place of the first disk stands in the boot disk. -/
theorem parts_bootPlace (rest : List Hop) :
    (assemble spec scope resolved tags).encode.parts (diskPlace 0 rest) =
      (Disks.boot spec.bootDisk resolved.origin scope).encode.parts rest := by
  rw [parts_diskPlace]
  exact List.append_nil _

/-- What stands in a place of a later disk stands in the further disk listed there. -/
theorem parts_extraPlace {index : Nat} {asked : Spec.ExtraDisk}
    (listed : spec.additionalDisks[index]? = some asked) (rest : List Hop) :
    (assemble spec scope resolved tags).encode.parts (diskPlace (index + 1) rest) =
      (Disks.extra spec.instanceName scope index asked).encode.parts rest := by
  have found : (assemble spec scope resolved tags).disks[index + 1]? =
      some (Disks.extra spec.instanceName scope index asked) := by
    have built := Disks.getElem?_extrasFrom spec.instanceName scope 0 spec.additionalDisks index
    rw [listed, Option.map_some, Nat.zero_add] at built
    have within := (List.getElem?_eq_some_iff.mp built).1
    simp only [assemble, Disks.all, List.getElem?_cons_succ]
    rw [List.getElem?_append_left within, built]
  rw [parts_diskPlace, found]
  exact List.append_nil _

/-- What stands in a place of the interface stands in the interface of the request. -/
theorem parts_interface (request : InsertRequest) (rest : List Hop) :
    request.encode.parts (.member "networkInterfaces" :: .item 0 :: rest) =
      request.interface.encode.parts rest := by
  simp [encode, List.lookup_append]

/-- In the place of accelerators stand their types. -/
theorem parts_accelerators (request : InsertRequest) :
    request.encode.parts [.member "guestAccelerators", .items, .member "acceleratorType"] =
      request.accelerators.map fun accelerator => .str accelerator.acceleratorType := by
  cases accelerators : request.accelerators <;>
    simp [encode, List.lookup_append, accelerators, GuestAccelerator.encode, List.flatMap_map,
      ← List.map_eq_flatMap]

/-- In the place of policies stand those of the request. -/
theorem parts_policies (request : InsertRequest) :
    request.encode.parts [.member "resourcePolicies", .items] =
      request.resourcePolicies.map Json.str := by
  cases policies : request.resourcePolicies <;> simp [encode, List.lookup_append, policies]

/-- In the place of the machine type stands its path in the zone. -/
theorem parts_machineType :
    (assemble spec scope resolved tags).encode.parts [.member "machineType"] =
      [.str (machineTypePath (Text.trim spec.machine.machineType) scope.zone)] := by
  simp [encode, assemble]

end InsertRequest

/-- An accelerator that is asked for has a path for its text. -/
theorem GuestAccelerator.pathFor_of_ofSpec? {scope : Scope} {asked : Spec.Accelerator}
    {accelerator : GuestAccelerator} (kept : ofSpec? scope asked = some accelerator) :
    PathFor accelerator.acceleratorType asked.acceleratorType := by
  unfold ofSpec? at kept
  split at kept
  case h_1 => cases kept
  case h_2 name filled =>
    split at kept
    case isTrue =>
      cases kept
      exact pathFor_of_filled? filled _
    case isFalse => cases kept

/-- The accelerators of a spec have paths for their texts, in order. -/
theorem GuestAccelerator.pathsFor_ofSpecs (scope : Scope) (asked : List Spec.Accelerator) :
    PathsFor (asked.map Spec.Accelerator.acceleratorType)
      ((ofSpecs scope asked).map fun accelerator => .str accelerator.acceleratorType) := by
  refine ⟨(ofSpecs scope asked).map GuestAccelerator.acceleratorType, by simp, ?_⟩
  rw [List.sublistForall₂_map_left_iff, List.sublistForall₂_map_right_iff, ofSpecs]
  exact sublistForall₂_filterMap (fun _ _ => pathFor_of_ofSpec?) asked

/-- The policies of a spec have paths for their texts, in order. -/
theorem ResourcePolicies.pathsFor_ofSpec (spec : MachineSpec) (scope : Scope) :
    PathsFor (spec.management.maintenancePolicy.toList ++ spec.advanced.resourcePolicies)
      ((ofSpec spec scope).map Json.str) := by
  refine ⟨ofSpec spec scope, rfl, sublistForall₂_of_sublist (Text.eraseDups_sublist _) ?_⟩
  rw [List.sublistForall₂_map_left_iff]
  exact sublistForall₂_filterMap (fun _ _ kept => pathFor_of_filled? kept _) _

namespace Disks

/-- The path of the boot disk's type has a last segment. -/
theorem shortName_bootType_ne (config : Spec.BootDisk) (scope : Scope) :
    shortName (diskTypePath (bootType config.diskType) scope.project scope.zone) ≠ "" := by
  have listed := bootType_mem config.diskType
  rw [(shortName_diskTypePath listed scope.project scope.zone).1]
  rintro empty
  rw [empty] at listed
  exact absurd listed (by decide)

variable {config : Spec.BootDisk} {scope : Scope}

/-- A boot disk that is created has parameters, one that exists has none. -/
theorem parts_boot_params (config : Spec.BootDisk) (origin : BootOrigin) (scope : Scope)
    (rest : List Hop) :
    (boot config origin scope).encode.parts (.member "initializeParams" :: rest) = [] ∨
      ∃ fill, (boot config origin scope).encode.parts (.member "initializeParams" :: rest) =
        (newBootDisk config scope fill).encode.parts rest := by
  cases origin with
  | disk path => exact .inl (AttachedDisk.parts_params_existing rfl rest)
  | image path => exact .inr ⟨.image path, AttachedDisk.parts_params_created rfl rest⟩
  | snapshot path => exact .inr ⟨.snapshot path, AttachedDisk.parts_params_created rfl rest⟩

/-- In the place of the boot source stands its path. -/
theorem parts_boot_place (config : Spec.BootDisk) (origin : BootOrigin) (scope : Scope) :
    (boot config origin scope).encode.parts origin.place =
      [.str origin.url] := by
  cases origin with
  | image url =>
    refine (AttachedDisk.parts_params_created rfl _).trans ?_
    simp [newBootDisk, NewDisk.encode, List.lookup_append, BootOrigin.url]
  | snapshot url =>
    refine (AttachedDisk.parts_params_created rfl _).trans ?_
    simp [newBootDisk, NewDisk.encode, List.lookup_append, BootOrigin.url]
  | disk url => exact AttachedDisk.parts_source rfl

/-- In the place of the boot disk's type stands a path with a last segment. -/
theorem endNamed_bootType (origin : BootOrigin) :
    EndNamed ((boot config origin scope).encode.parts
      [.member "initializeParams", .member "diskType"]) := by
  rcases parts_boot_params config origin scope [.member "diskType"] with existing | ⟨fill, made⟩
  · simp [existing]
  · rw [made]
    simp only [Json.parts_member, (describes_encode _).type]
    exact endNamed_singleton_iff.mpr (shortName_bootType_ne config scope)

/-- In the place of a plain schedule stands a path with a last segment. -/
theorem endNamed_schedule {policy : String} (asked : config.snapshotSchedule = some policy)
    (plain : '/' ∉ policy.toList) (origin : BootOrigin) :
    EndNamed ((boot config origin scope).encode.parts
      [.member "initializeParams", .member "resourcePolicies", .items]) := by
  rcases parts_boot_params config origin scope [.member "resourcePolicies", .items] with
    existing | ⟨fill, made⟩
  · simp [existing]
  · rw [made, Json.parts_member, (describes_encode _).policies]
    simp only [newBootDisk, asked, Text.given?, Option.bind_some]
    cases filled : Text.filled? policy with
    | none => simp
    | some kept => exact endNamed_of_filled? filled plain _

/-- The path of a further disk ends in the name that was asked for. -/
theorem endNamed_extraDisk_iff {disk : String} (plain : '/' ∉ disk.toList) (instanceName : String)
    (index : Nat) (readOnly autoDelete : Bool) (deviceName : Option String) :
    EndNamed ((extra instanceName scope index
      (.existing disk readOnly autoDelete deviceName)).encode.parts [.member "source"]) ↔
      ¬ Text.blank disk := by
  have ends : shortName (diskPath disk scope.project scope.zone) = Text.trim disk :=
    shortName_qualify plain _
  rw [AttachedDisk.parts_source rfl, endNamed_singleton_iff, ends, Text.blank, beq_iff_eq]

/-- A further disk that does not exist is a local SSD or of the type that was asked for. -/
theorem content_extra_new (instanceName : String) (scope : Scope) (index : Nat)
    (name : Option String) (sizeGb : Option Int64) (diskType : Option String) (autoDelete : Bool)
    (kmsKey : Option String) :
    (extra instanceName scope index (.new name sizeGb diskType autoDelete kmsKey)).content =
        .scratch (diskTypePath localSsdType scope.project scope.zone) ∨
      ∃ made, (extra instanceName scope index
          (.new name sizeGb diskType autoDelete kmsKey)).content = .created made ∧
        made.diskType = diskTypePath ((Text.given? diskType).getD defaultType)
          scope.project scope.zone := by
  unfold extra
  by_cases scratch : shortName ((Text.given? diskType).getD defaultType) == localSsdType
  · simp only [scratch, if_true]
    exact .inl rfl
  · simp only [scratch, Bool.false_eq_true, if_false]
    exact .inr ⟨_, rfl, rfl⟩

/-- In the place of a plain type of a further disk stands a path with a last segment. -/
theorem endNamed_extraType {diskType : String} (plain : '/' ∉ diskType.toList)
    (instanceName : String) (index : Nat) (name : Option String) (sizeGb : Option Int64)
    (autoDelete : Bool) (kmsKey : Option String) :
    EndNamed ((extra instanceName scope index
      (.new name sizeGb (some diskType) autoDelete kmsKey)).encode.parts
      [.member "initializeParams", .member "diskType"]) := by
  have typed : ∀ asked, '/' ∉ asked.toList → Tidy asked →
      shortName (diskTypePath asked scope.project scope.zone) ≠ "" := by
    intro asked single tidy
    rw [shortName_diskTypePath_of_plain single tidy.trim_eq]
    exact tidy.filled
  rcases content_extra_new instanceName scope index name sizeGb (some diskType) autoDelete kmsKey
    with scratch | ⟨made, created, same⟩
  · rw [AttachedDisk.parts_params_scratch scratch]
    exact endNamed_singleton_iff.mpr (typed localSsdType (by decide) (by decide))
  · rw [AttachedDisk.parts_params_created created, Json.parts_member, (describes_encode made).type,
      same]
    refine endNamed_singleton_iff.mpr ?_
    cases given : Text.given? (some diskType) with
    | none => exact typed defaultType (by decide) (by decide)
    | some kept =>
      have tidy := Text.tidy_of_given? given
      obtain ⟨rfl, -⟩ := Text.filled?_eq_some_iff.mp given
      exact typed _ ((mem_trim_slash_iff diskType).not.mpr plain) tidy

end Disks

namespace NetworkInterface

variable {config : Spec.Networking} {scope : Scope}

/-- In the place of the network stands that of the interface. -/
theorem parts_network (interface : NetworkInterface) :
    interface.encode.parts [.member "network"] = interface.network.toList.map Json.str := by
  cases network : interface.network <;> simp [encode, List.lookup_append, network]

/-- In the place of the subnetwork stands that of the interface. -/
theorem parts_subnetwork (interface : NetworkInterface) :
    interface.encode.parts [.member "subnetwork"] = interface.subnetwork.toList.map Json.str := by
  cases subnetwork : interface.subnetwork <;> simp [encode, List.lookup_append, subnetwork]

/-- In the place of a plain network stands a path with a last segment. -/
theorem endNamed_network {network : String} (asked : config.network = some network)
    (plain : '/' ∉ network.toList) (addresses : StaticAddresses) :
    EndNamed ((ofSpec config scope addresses).encode.parts [.member "network"]) := by
  rw [parts_network]
  simp only [ofSpec, networkOf, asked, Text.given?, Option.bind_some]
  cases filled : Text.filled? network with
  | some kept => exact endNamed_of_filled? filled plain _
  | none =>
    cases config.subnetwork.bind Text.filled? with
    | some subnetwork => exact endNamed_nil
    | none =>
      have standard : Text.filled? defaultNetwork = some defaultNetwork := by decide +kernel
      exact endNamed_of_filled? standard (by decide) _

/-- In the place of a plain subnetwork stands a path with a last segment. -/
theorem endNamed_subnetwork {subnetwork : String} (asked : config.subnetwork = some subnetwork)
    (plain : '/' ∉ subnetwork.toList) (addresses : StaticAddresses) :
    EndNamed ((ofSpec config scope addresses).encode.parts [.member "subnetwork"]) := by
  rw [parts_subnetwork]
  simp only [ofSpec, asked, Text.given?, Option.bind_some]
  cases filled : Text.filled? subnetwork with
  | none => exact endNamed_nil
  | some kept => exact endNamed_of_filled? filled plain _

end NetworkInterface

end VmLaunch
