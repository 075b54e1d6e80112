import VmLaunch.Proofs.Json.Members
import VmLaunch.Proofs.Reference
import VmLaunch.Request.Insert

/-!
# The disks of a request

Three builders contribute to one list. `Sound` is what each of them owes to the kinds of disk,
`WellFormed` is what the provider sees of it, and `Arranged` says which disk stands where.
-/

namespace VmLaunch.Disks

/-- What a disk owes to its kind: a scratch disk holds nothing to keep, a new disk has a size,
and only a new boot disk has policies; its type is one that can boot. -/
structure Sound (scope : Scope) (boot : Bool) (disk : AttachedDisk) : Prop where
  boots : disk.boot = boot
  scratch : ∀ diskType, disk.content = .scratch diskType →
    boot = false ∧ disk.autoDelete = true ∧ disk.kmsKey = none
  sized : ∀ made, disk.content = .created made → 1 ≤ made.sizeGb.toInt
  scheduled : ∀ made, disk.content = .created made → made.resourcePolicies ≠ [] → boot = true
  bootable : ∀ made, disk.content = .created made → boot = true →
    ∃ name ∈ bootTypes, made.diskType = diskTypePath name scope.project scope.zone

/-- What every disk of a request keeps to. -/
structure WellFormed (scope : Scope) (boot : Bool) (disk : Json) : Prop where
  boots : disk.get? "boot" = some (.bool boot)
  kind : disk.get? "type" = some (.str "SCRATCH") ∨ disk.get? "type" = some (.str "PERSISTENT")
  oneOrigin : (disk.get? "source").isSome = !(disk.get? "initializeParams").isSome
  scratch_iff : disk.get? "type" = some (.str "SCRATCH") ↔
    disk.get? "interface" = some (.str "NVME")
  scratch : disk.get? "type" = some (.str "SCRATCH") →
    disk.get? "autoDelete" = some (.bool true) ∧ disk.get? "mode" = none ∧
      disk.get? "source" = none ∧ disk.get? "diskEncryptionKey" = none ∧
      (disk.get? "initializeParams").bind (Json.get? "diskSizeGb") = none
  sized : disk.get? "type" = some (.str "PERSISTENT") →
    ∀ params, disk.get? "initializeParams" = some params →
      ∃ size : Int, params.get? "diskSizeGb" = some (Json.int size) ∧ 1 ≤ size
  bootable : boot = true → ∀ params, disk.get? "initializeParams" = some params →
    ∃ diskType, params.get? "diskType" = some (.str diskType) ∧
      shortName diskType ∈ ["pd-balanced", "pd-ssd", "pd-standard"] ∧
      (scope.project ≠ "" → scope.zone ≠ "" →
        diskType = zoneParent scope.project scope.zone "diskTypes" ++ "/" ++ shortName diskType)
  scheduled : ∀ params, disk.get? "initializeParams" = some params →
    (params.get? "resourcePolicies").isSome = true → boot = true

/-- The boot disk is made of what its source was resolved to. -/
def StartsFrom (origin : BootOrigin) (disk : Json) : Prop :=
  match origin with
  | .disk path => disk.get? "source" = some (.str path)
  | .image path =>
    (disk.get? "initializeParams").bind (Json.get? "sourceImage") = some (.str path)
  | .snapshot path =>
    (disk.get? "initializeParams").bind (Json.get? "sourceSnapshot") = some (.str path)

/-- A disk is the one that a further disk of the spec asks for from its position. -/
def StandsFor (spec : MachineSpec) (scope : Scope) (index : Nat) (asked : Spec.ExtraDisk)
    (disk : Json) : Prop :=
  match asked with
  | .existing name _ _ _ =>
    disk.get? "source" = some (.str (diskPath name scope.project scope.zone))
  | .new name _ diskType _ _ =>
    if shortName ((Text.given? diskType).getD defaultType) = localSsdType then
      disk.get? "type" = some (.str "SCRATCH") ∧ disk.get? "deviceName" = none
    else
      (disk.get? "initializeParams").bind (Json.get? "diskName") =
        some (.str ((Text.given? name).getD
          (spec.instanceName ++ "-disk-" ++ toString (index + 1))))

/-- The boot disk, the further disks in the order of the spec and the local SSDs. -/
structure Arranged (spec : MachineSpec) (scope : Scope) (origin : BootOrigin) (first : Json)
    (extras ssds : List Json) : Prop where
  starts : StartsFrom origin first
  extras_length : extras.length = spec.additionalDisks.length
  stands : ∀ (index : Nat) asked disk, spec.additionalDisks[index]? = some asked →
    extras[index]? = some disk → StandsFor spec scope index asked disk
  ssds_length : (ssds.length : Int) = min (max spec.localSsdCount.toInt 0) 8
  ssd : ∀ (index : Nat) disk, ssds[index]? = some disk →
    disk.get? "type" = some (.str "SCRATCH") ∧
      disk.get? "deviceName" = some (.str ("local-ssd-" ++ toString index))
  first_wellFormed : WellFormed scope true first
  others_wellFormed : ∀ disk ∈ extras ++ ssds, WellFormed scope false disk

section BootTypes

/-- The type of a boot disk is one of those that there are. -/
theorem bootType_mem (diskType : Option String) : bootType diskType ∈ bootTypes := by
  have standard : defaultType ∈ bootTypes := by decide
  unfold bootType
  cases Text.given? diskType with
  | none => exact standard
  | some asked =>
    by_cases allowed : isBootType (shortName asked)
    · simp only [allowed, if_true]
      exact List.contains_iff_mem.mp allowed
    · simp only [allowed]
      exact standard

/-- A type that cannot boot gives way to the default, however it is spelled. -/
example : bootType (some " zones/z/diskTypes/local-ssd ") = defaultType := by decide +kernel

/-- The path of a type that can boot ends in its short name, whatever the scope. -/
theorem shortName_diskTypePath {name : String} (bootable : name ∈ bootTypes)
    (project zone : String) :
    shortName (diskTypePath name project zone) = name ∧
      (project ≠ "" → zone ≠ "" →
        diskTypePath name project zone = zoneParent project zone "diskTypes" ++ "/" ++ name) := by
  have plain : ∀ name ∈ bootTypes, '/' ∉ name.toList ∧ Text.trim name = name := by
    decide +kernel
  obtain ⟨single, trimmed⟩ := plain name bootable
  refine ⟨shortName_diskTypePath_of_plain single trimmed project zone, fun given located => ?_⟩
  have whole : ¬ (project == "" || zone == "") = true := by simp [given, located]
  rw [diskTypePath, if_neg whole, qualify_of_plain single trimmed]

/-- A disk has one gigabyte at least. -/
theorem one_le_size (asked : Option Int64) : 1 ≤ (size asked).toInt := by
  have standard : 1 ≤ defaultSizeGb.toInt := by decide
  unfold size
  cases asked with
  | none => exact standard
  | some n =>
    by_cases enough : 1 ≤ n.toInt
    · simp only [if_pos enough]
      exact enough
    · simp only [if_neg enough]
      exact standard

end BootTypes

section Builders

variable {scope : Scope}

/-- A disk that exists is sound when it boots or not as it should. -/
theorem Sound.of_existing {boot : Bool} {disk : AttachedDisk} {source : String} {readOnly : Bool}
    (boots : disk.boot = boot) (content : disk.content = .existing source readOnly) :
    Sound scope boot disk where
  boots := boots
  scratch := fun _ other => by simp [content] at other
  sized := fun _ other => by simp [content] at other
  scheduled := fun _ other => by simp [content] at other
  bootable := fun _ other => by simp [content] at other

/-- A boot disk that is created is sound when it boots. -/
theorem Sound.of_newBootDisk {disk : AttachedDisk} {config : Spec.BootDisk} {fill : DiskFill}
    (boots : disk.boot = true)
    (content : disk.content = .created (newBootDisk config scope fill)) :
    Sound scope true disk where
  boots := boots
  scratch := fun _ other => by simp [content] at other
  sized := fun made same => by
    obtain rfl := DiskContent.created.inj (content.symm.trans same)
    exact one_le_size config.sizeGb
  scheduled := fun _ _ _ => rfl
  bootable := fun made same _ => by
    obtain rfl := DiskContent.created.inj (content.symm.trans same)
    exact ⟨_, bootType_mem config.diskType, rfl⟩

/-- The boot disk is sound, whatever it is made from. -/
theorem boot_sound (config : Spec.BootDisk) (origin : BootOrigin) :
    Sound scope true (boot config origin scope) := by
  cases origin with
  | disk path => exact .of_existing rfl rfl
  | image path => exact .of_newBootDisk rfl rfl
  | snapshot path => exact .of_newBootDisk rfl rfl

theorem localSsd_sound (project zone : String) (deviceName : Option String) :
    Sound scope false (localSsd project zone deviceName) where
  boots := rfl
  scratch := fun _ _ => ⟨rfl, rfl, rfl⟩
  sized := fun _ other => nomatch other
  scheduled := fun _ other => nomatch other
  bootable := fun _ other => nomatch other

/-- A further disk never boots. One whose type is that of local SSDs is a scratch disk, whatever
else was asked of it. -/
theorem extra_sound (instanceName : String) (index : Nat) (asked : Spec.ExtraDisk) :
    Sound scope false (extra instanceName scope index asked) := by
  cases asked with
  | existing name readOnly autoDelete deviceName => exact .of_existing rfl rfl
  | new name sizeGb diskType autoDelete kmsKey =>
    unfold extra
    by_cases scratch : shortName ((Text.given? diskType).getD defaultType) == localSsdType
    · simp only [scratch, if_true]
      exact localSsd_sound _ _ _
    · simp only [scratch, if_false, Bool.false_eq_true]
      constructor
      case boots => rfl
      case scratch =>
        intro _ other
        cases other
      case sized =>
        intro made same
        cases same
        exact one_le_size sizeGb
      case scheduled =>
        intro made same filled
        cases same
        exact absurd rfl filled
      case bootable =>
        intro _ _ boots
        cases boots

/-- All further disks are sound. -/
theorem extrasFrom_sound {instanceName : String} {start : Nat} {asked : List Spec.ExtraDisk} :
    ∀ disk ∈ extrasFrom instanceName scope start asked, Sound scope false disk := by
  induction asked generalizing start with
  | nil => simp [extrasFrom]
  | cons first rest inductionHypothesis =>
    exact List.forall_mem_cons.mpr ⟨extra_sound instanceName start first, inductionHypothesis⟩

/-- All local SSDs are sound. -/
theorem localSsds_sound (count : Int64) (project zone : String) :
    ∀ disk ∈ localSsds count project zone, Sound scope false disk := by
  intro disk member
  obtain ⟨index, -, rfl⟩ := List.mem_map.mp member
  exact localSsd_sound project zone _

end Builders

section Members

/-- What the parameters of a new disk say of it. -/
structure Describes (params : Json) (made : NewDisk) : Prop where
  name : params.get? "diskName" = made.name.map Json.str
  size : params.get? "diskSizeGb" = some (Json.int made.sizeGb.toInt)
  type : params.get? "diskType" = some (.str made.diskType)
  policies : params.get? "resourcePolicies" =
    if made.resourcePolicies.isEmpty then none else some (Json.strs made.resourcePolicies)

/-- What is written of a disk to create describes it. -/
theorem describes_encode (made : NewDisk) : Describes made.encode made := by
  rcases made with ⟨name, path | path | _, sizeGb, diskType, resourcePolicies⟩ <;>
    constructor <;> simp [NewDisk.encode, List.lookup_append]

/-- What a part of a request says of a disk. -/
structure Shows (shown : Json) (disk : AttachedDisk) : Prop where
  boot : shown.get? "boot" = some (.bool disk.boot)
  autoDelete : shown.get? "autoDelete" = some (.bool disk.autoDelete)
  type : shown.get? "type" = some (.str disk.content.kind)
  deviceName : shown.get? "deviceName" = disk.deviceName.map Json.str
  key : shown.get? "diskEncryptionKey" =
    disk.kmsKey.map fun key => .obj [("kmsKeyName", .str key)]
  mode : (shown.get? "mode").isSome → ∃ source readOnly, disk.content = .existing source readOnly
  source : shown.get? "source" =
    match disk.content with
    | .existing source _ => some (.str source)
    | .created _ => none
    | .scratch _ => none
  interface : shown.get? "interface" =
    match disk.content with
    | .existing _ _ => none
    | .created _ => none
    | .scratch _ => some (.str "NVME")
  params : shown.get? "initializeParams" =
    match disk.content with
    | .existing _ _ => none
    | .created made => some made.encode
    | .scratch diskType => some (.obj [("diskType", .str diskType)])

/-- What is written of an attached disk shows it. -/
theorem shows_encode (disk : AttachedDisk) : Shows disk.encode disk := by
  rcases disk with ⟨boot, autoDelete, ⟨source, readOnly⟩ | made | diskType, deviceName, kmsKey⟩ <;>
    constructor <;>
    simp [AttachedDisk.encode, DiskContent.attachment, DiskContent.parameters, List.lookup_append]

end Members

/-- A sound disk is seen as a well-formed one, whichever kind it is of. -/
theorem Sound.wellFormed {scope : Scope} {boot : Bool} {disk : AttachedDisk}
    (sound : Sound scope boot disk) : WellFormed scope boot disk.encode := by
  have shows := shows_encode disk
  have boots : disk.encode.get? "boot" = some (.bool boot) := by
    rw [shows.boot, sound.boots]
  have kind := shows.type
  have source := shows.source
  have interface := shows.interface
  have parameters := shows.params
  cases content : disk.content with
  | existing path readOnly =>
    simp only [content] at kind source interface parameters
    have persistent : disk.encode.get? "type" ≠ some (.str "SCRATCH") := by
      simp [kind, DiskContent.kind]
    have notMade : ∀ params, disk.encode.get? "initializeParams" ≠ some params := by
      simp [parameters]
    exact {
      boots := boots
      kind := .inr kind
      oneOrigin := by simp [source, parameters]
      scratch_iff := iff_of_false persistent (by simp [interface])
      scratch := fun scratch => absurd scratch persistent
      sized := fun _ params made => absurd made (notMade params)
      bootable := fun _ params made => absurd made (notMade params)
      scheduled := fun params made => absurd made (notMade params) }
  | created made =>
    simp only [content] at kind source interface parameters
    have persistent : disk.encode.get? "type" ≠ some (.str "SCRATCH") := by
      simp [kind, DiskContent.kind]
    have describes : ∀ params, disk.encode.get? "initializeParams" = some params →
        Describes params made := by
      intro params same
      rw [← Option.some.inj (parameters.symm.trans same)]
      exact describes_encode made
    refine {
      boots := boots
      kind := .inr kind
      oneOrigin := by simp [source, parameters]
      scratch_iff := iff_of_false persistent (by simp [interface])
      scratch := fun scratch => absurd scratch persistent
      sized := fun _ params same => ?_
      bootable := fun booting params same => ?_
      scheduled := fun params same filled => ?_ }
    · exact ⟨_, (describes params same).size, sound.sized made content⟩
    · obtain ⟨name, listed, typed⟩ := sound.bootable made content booting
      obtain ⟨short, qualified⟩ := shortName_diskTypePath listed scope.project scope.zone
      rw [← typed] at short qualified
      refine ⟨_, (describes params same).type, ?_, fun given located => ?_⟩
      · rw [short]
        exact listed
      · rw [short]
        exact qualified given located
    · rw [(describes params same).policies] at filled
      refine sound.scheduled made content fun empty => ?_
      simp [empty] at filled
  | scratch diskType =>
    simp only [content] at kind source interface parameters
    obtain ⟨still, deleted, keyless⟩ := sound.scratch diskType content
    have persistent : disk.encode.get? "type" ≠ some (.str "PERSISTENT") := by
      simp [kind, DiskContent.kind]
    have modeless : disk.encode.get? "mode" = none := by
      refine Option.not_isSome_iff_eq_none.mp fun given => ?_
      obtain ⟨path, readOnly, other⟩ := shows.mode given
      rw [content] at other
      cases other
    have unencrypted : disk.encode.get? "diskEncryptionKey" = none := by
      rw [shows.key, keyless]
      rfl
    exact {
      boots := boots
      kind := .inl kind
      oneOrigin := by simp [source, parameters]
      scratch_iff := iff_of_true kind interface
      scratch := fun _ => ⟨by rw [shows.autoDelete, deleted], modeless, source, unencrypted,
        by simp [parameters]⟩
      sized := fun other => absurd other persistent
      bootable := fun booting => absurd booting (by simp [still])
      scheduled := fun params same filled => by
        obtain rfl := Option.some.inj (parameters.symm.trans same)
        simp at filled }

section Order

variable {spec : MachineSpec} {scope : Scope}

/-- There are as many further disks as are asked for. -/
theorem length_extrasFrom (instanceName : String) (scope : Scope) (index : Nat)
    (asked : List Spec.ExtraDisk) :
    (extrasFrom instanceName scope index asked).length = asked.length := by
  induction asked generalizing index with
  | nil => rfl
  | cons first rest inductionHypothesis =>
    exact congrArg Nat.succ (inductionHypothesis (index + 1))

/-- Every further disk is built from the text in its place and from its position. -/
theorem getElem?_extrasFrom (instanceName : String) (scope : Scope) (start : Nat)
    (asked : List Spec.ExtraDisk) (index : Nat) :
    (extrasFrom instanceName scope start asked)[index]? =
      asked[index]?.map (extra instanceName scope (start + index)) := by
  induction asked generalizing start index with
  | nil => rfl
  | cons first rest inductionHypothesis =>
    cases index with
    | zero => rfl
    | succ index =>
      have later := inductionHypothesis (start + 1) index
      rw [show start + 1 + index = start + (index + 1) by omega] at later
      exact later

/-- The boot disk starts from the origin that it is made from. -/
theorem starts_boot (config : Spec.BootDisk) (origin : BootOrigin) :
    StartsFrom origin (boot config origin scope).encode := by
  cases origin with
  | disk path => exact (shows_encode _).source
  | image path =>
    unfold StartsFrom
    simp only [(shows_encode _).params, boot]
    rfl
  | snapshot path =>
    unfold StartsFrom
    simp only [(shows_encode _).params, boot]
    rfl

/-- A further disk stands for the one that is asked for in its place. -/
theorem extra_stands (spec : MachineSpec) (index : Nat) (asked : Spec.ExtraDisk) :
    StandsFor spec scope index asked (extra spec.instanceName scope index asked).encode := by
  cases asked with
  | existing name readOnly autoDelete deviceName => exact (shows_encode _).source
  | new name sizeGb diskType autoDelete kmsKey =>
    unfold StandsFor extra
    by_cases scratch : shortName ((Text.given? diskType).getD defaultType) = localSsdType
    · simp only [scratch, if_true, beq_self_eq_true]
      exact ⟨(shows_encode _).type, (shows_encode _).deviceName⟩
    · simp only [scratch, if_false, beq_eq_false_iff_ne.mpr scratch, Bool.false_eq_true,
        (shows_encode _).params, Option.bind_some]
      exact (describes_encode _).name

/-- There are as many local SSDs as are asked for, but none for a negative number and eight at most.
-/
theorem length_localSsds (count : Int64) (project zone : String) :
    ((localSsds count project zone).length : Int) = min (max count.toInt 0) 8 := by
  simp only [localSsds, List.length_map, List.length_range, localSsdCount, maxLocalSsds]
  omega

/-- Local SSDs are scratch disks with names of their own as devices. -/
theorem ssd_named {count : Int64} {project zone : String} {index : Nat} {disk : AttachedDisk}
    (found : (localSsds count project zone)[index]? = some disk) :
    disk.encode.get? "type" = some (.str "SCRATCH") ∧
      disk.encode.get? "deviceName" = some (.str ("local-ssd-" ++ toString index)) := by
  unfold localSsds at found
  rw [List.getElem?_map] at found
  obtain ⟨place, ranged, rfl⟩ := Option.map_eq_some_iff.mp found
  obtain ⟨-, rfl⟩ := List.getElem?_eq_some_iff.mp ranged
  rw [List.getElem_range]
  exact ⟨(shows_encode _).type, (shows_encode _).deviceName⟩

end Order

/-- The disks of a request stand in order and keep to their kinds, for every spec, every scope
and whatever the boot source was resolved to. -/
theorem assemble_disks (spec : MachineSpec) (scope : Scope) (resolved : Resolved)
    (ruleTags : List String) :
    ∃ first extras ssds,
      (InsertRequest.assemble spec scope resolved ruleTags).encode.get? "disks" =
        some (.arr (first :: (extras ++ ssds))) ∧
      Arranged spec scope resolved.origin first extras ssds := by
  have listed : (InsertRequest.assemble spec scope resolved ruleTags).encode.get? "disks" =
      some (.arr ((all spec resolved.origin scope).map AttachedDisk.encode)) := by
    simp [InsertRequest.encode, List.lookup_append, InsertRequest.assemble]
  refine ⟨(boot spec.bootDisk resolved.origin scope).encode,
    (extrasFrom spec.instanceName scope 0 spec.additionalDisks).map AttachedDisk.encode,
    (localSsds spec.localSsdCount scope.project scope.zone).map AttachedDisk.encode, ?_, ?_⟩
  · rw [listed, all, List.map_cons, List.map_append]
  constructor
  case starts => exact starts_boot spec.bootDisk resolved.origin
  case extras_length => rw [List.length_map, length_extrasFrom]
  case stands =>
    intro index asked disk placed found
    rw [List.getElem?_map, getElem?_extrasFrom, placed, Nat.zero_add] at found
    obtain rfl := Option.some.inj found
    exact extra_stands spec index asked
  case ssds_length =>
    rw [List.length_map]
    exact length_localSsds spec.localSsdCount scope.project scope.zone
  case ssd =>
    intro index disk found
    rw [List.getElem?_map] at found
    obtain ⟨ssd, placed, rfl⟩ := Option.map_eq_some_iff.mp found
    exact ssd_named placed
  case first_wellFormed => exact (boot_sound spec.bootDisk resolved.origin).wellFormed
  case others_wellFormed =>
    intro disk member
    rw [← List.map_append] at member
    obtain ⟨source, among, rfl⟩ := List.mem_map.mp member
    rcases List.mem_append.mp among with further | local_ssd
    · exact (extrasFrom_sound source further).wellFormed
    · exact (localSsds_sound _ _ _ source local_ssd).wellFormed

end VmLaunch.Disks
