import VmLaunch.Proofs.Decimal.Digits
import VmLaunch.Proofs.Names
import VmLaunch.Proofs.Request.Naming

/-!
# Names of new disks

A new disk without a name is called after the machine and its position. Nobody looks at the length
of such a name, nor at the names that other disks were given. `UsableNames` says what a request
owes to the provider here, and `NamesFit` is what a spec has to keep to for that.
-/

namespace VmLaunch

namespace Spec.ExtraDisk

/-- Whether a further disk is created as one that persists; only such a disk has a name. -/
def persists : ExtraDisk → Bool
  | .existing _ _ _ _ => false
  | .new _ _ diskType _ _ =>
    shortName ((Text.given? diskType).getD Disks.defaultType) != Disks.localSsdType

/-- The name that a further disk was given. -/
def name? : ExtraDisk → Option String
  | .existing _ _ _ _ => none
  | .new name _ _ _ _ => Text.given? name

/-- Whether a name is to be made up for a further disk. -/
def awaitsName (disk : ExtraDisk) : Bool :=
  disk.persists && disk.name?.isNone

end Spec.ExtraDisk

namespace Disks

/-- The name that is made up for the further disk at an index. -/
def madeUp (spec : MachineSpec) (index : Nat) : String :=
  spec.instanceName ++ "-disk-" ++ toString (index + 1)

/-- The indices of the further disks for which a name is made up. -/
def awaiting (spec : MachineSpec) : List Nat :=
  (spec.additionalDisks.zipIdx.filter fun entry => entry.1.awaitsName).map Prod.snd

/-- The names that were given to further disks. -/
def givenNames (spec : MachineSpec) : List String :=
  (spec.additionalDisks.filter Spec.ExtraDisk.persists).filterMap Spec.ExtraDisk.name?

/-- Every name that is made up is an instance name that no other disk of the request has. -/
def UsableNames (spec : MachineSpec) (body : Json) : Prop :=
  ∀ index ∈ awaiting spec, ∃ name,
    body.parts (paramPlace (index + 1) "diskName") = [.str name] ∧
      isInstanceName name = true ∧
      ∀ other, other ≠ index + 1 → .str name ∉ body.parts (paramPlace other "diskName")

/-- Names that are made up stay short enough, and none of them was given to a disk. -/
structure NamesFit (spec : MachineSpec) : Prop where
  short : ∀ index ∈ awaiting spec, (madeUp spec index).length ≤ 63
  free : ∀ index ∈ awaiting spec, madeUp spec index ∉ givenNames spec

section MadeUp

variable {spec : MachineSpec} {index : Nat}

/-- The disks that await a name are those listed that do. -/
theorem mem_awaiting_iff : index ∈ awaiting spec ↔
    ∃ asked, spec.additionalDisks[index]? = some asked ∧ asked.awaitsName = true := by
  simp [awaiting, List.mem_zipIdx_iff_getElem?]

/-- The names that are given are those of listed disks that persist. -/
theorem mem_givenNames_iff {name : String} : name ∈ givenNames spec ↔
    ∃ asked ∈ spec.additionalDisks, asked.persists = true ∧ asked.name? = some name := by
  simp [givenNames, and_assoc]

/-- Names that are made up for different positions differ. -/
theorem madeUp_inj {other : Nat} : madeUp spec index = madeUp spec other ↔ index = other := by
  refine ⟨fun same => ?_, fun same => same ▸ rfl⟩
  have digits : Nat.toDigits 10 (index + 1) = Nat.toDigits 10 (other + 1) := by
    rw [← Binary64.toList_toString, ← Binary64.toList_toString]
    exact congrArg String.toList ((String.append_right_inj _).mp same)
  have numbers := congrArg Binary64.digitsValue digits
  rw [Binary64.digitsValue_toDigits, Binary64.digitsValue_toDigits] at numbers
  exact Nat.succ_injective numbers

/-- A made-up name has the form of one exactly when it is not too long. -/
theorem isInstanceName_madeUp_iff (named : isInstanceName spec.instanceName = true) (index : Nat) :
    isInstanceName (madeUp spec index) = true ↔ (madeUp spec index).length ≤ 63 := by
  have digits : ∀ c ∈ (toString (index + 1)).toList, Binary64.isDigit c = true := by
    intro c member
    rw [Binary64.toList_toString] at member
    exact Binary64.isDigit_of_mem_toDigits member
  have filled : (toString (index + 1)).toList ≠ [] := by
    rw [Binary64.toList_toString]
    exact Nat.toDigits_ne_nil
  rw [madeUp, String.append_assoc]
  refine isInstanceName_append_iff named ?chars ?last
  case chars =>
    have fixed : "-disk-".toList.all isNameChar = true := by decide
    rw [String.toList_append]
    refine List.forall_mem_append.mpr ⟨List.all_eq_true.mp fixed, fun c member => ?_⟩
    have digit := digits c member
    unfold Binary64.isDigit at digit
    simp [isNameChar, digit]
  case last =>
    refine ⟨(toString (index + 1)).toList.getLast filled, ?_, fun hyphen => ?_⟩
    · rw [String.toList_append, List.getLast?_append_of_ne_nil _ filled]
      exact List.getLast?_eq_some_getLast filled
    · have digit := digits _ (List.getLast_mem filled)
      rw [hyphen] at digit
      exact absurd digit (by decide)

end MadeUp

end Disks

/-- The name that a disk is created under. -/
def AttachedDisk.newName? (disk : AttachedDisk) : Option String :=
  match disk.content with
  | .created made => made.name
  | .existing _ _ => none
  | .scratch _ => none

/-- The name of a disk that is created stands among its parameters. -/
theorem AttachedDisk.parts_newName (disk : AttachedDisk) :
    disk.encode.parts [.member "initializeParams", .member "diskName"] =
      disk.newName?.toList.map Json.str := by
  rw [Json.parts_member, (Disks.shows_encode disk).params, newName?]
  cases disk.content with
  | existing source readOnly => rfl
  | created made =>
    cases name : made.name <;> simp [(Disks.describes_encode made).name, name]
  | scratch diskType => simp

namespace Disks

section Places

variable {spec : MachineSpec} {scope : Scope} {resolved : Resolved} {tags : List String}

/-- The name that the further disk at an index is created under. -/
def nameOf? (spec : MachineSpec) (index : Nat) (asked : Spec.ExtraDisk) : Option String :=
  if asked.persists then some (asked.name?.getD (madeUp spec index)) else none

/-- A further disk is created under the name that its spec gives or that is made up. -/
theorem newName?_extra (spec : MachineSpec) (scope : Scope) (index : Nat)
    (asked : Spec.ExtraDisk) :
    (extra spec.instanceName scope index asked).newName? = nameOf? spec index asked := by
  cases asked with
  | existing disk readOnly autoDelete deviceName => rfl
  | new name sizeGb diskType autoDelete kmsKey =>
    unfold extra nameOf? Spec.ExtraDisk.persists
    by_cases scratch : shortName ((Text.given? diskType).getD defaultType) = localSsdType
    · simp only [scratch, beq_self_eq_true, if_true, bne_self_eq_false, Bool.false_eq_true,
        if_false]
      rfl
    · simp only [beq_eq_false_iff_ne.mpr scratch, bne_iff_ne.mpr scratch, Bool.false_eq_true,
        if_true, if_false]
      rfl

/-- The boot disk is created without a name. -/
theorem newName?_boot (config : Spec.BootDisk) (origin : BootOrigin) (scope : Scope) :
    (boot config origin scope).newName? = none := by
  cases origin <;> rfl

/-- Local SSDs are created without names. -/
theorem newName?_localSsds {count : Int64} {project zone : String} :
    ∀ disk ∈ localSsds count project zone, disk.newName? = none := by
  intro disk member
  obtain ⟨index, -, rfl⟩ := List.mem_map.mp member
  rfl

/-- In the place of the boot disk's name stands none. -/
theorem parts_bootName :
    (InsertRequest.assemble spec scope resolved tags).encode.parts (paramPlace 0 "diskName") =
      [] := by
  rw [paramPlace, InsertRequest.parts_bootPlace, AttachedDisk.parts_newName, newName?_boot]
  rfl

/-- Behind the boot disk, names stand where further disks were asked for, and nowhere else. -/
theorem parts_extraName (index : Nat) :
    (InsertRequest.assemble spec scope resolved tags).encode.parts
        (paramPlace (index + 1) "diskName") =
      (spec.additionalDisks[index]?.bind (nameOf? spec index)).toList.map Json.str := by
  cases listed : spec.additionalDisks[index]? with
  | some asked =>
    rw [paramPlace, InsertRequest.parts_extraPlace listed, AttachedDisk.parts_newName,
      newName?_extra]
    rfl
  | none =>
    have beyond : (extrasFrom spec.instanceName scope 0 spec.additionalDisks).length ≤ index := by
      rw [length_extrasFrom]
      exact List.getElem?_eq_none_iff.mp listed
    rw [paramPlace, InsertRequest.parts_diskPlace]
    simp only [InsertRequest.assemble, all, List.getElem?_cons_succ,
      List.getElem?_append_right beyond]
    generalize index - _ = place
    cases found : (localSsds spec.localSsdCount scope.project scope.zone)[place]? with
    | none => rfl
    | some disk =>
      have unnamed := newName?_localSsds disk (List.mem_of_getElem? found)
      rw [Option.toList_some, List.flatMap_singleton, AttachedDisk.parts_newName, unnamed]
      rfl

/-- In the place of a name that is awaited stands the made-up one. -/
theorem parts_of_awaiting {index : Nat} (awaited : index ∈ awaiting spec) :
    (InsertRequest.assemble spec scope resolved tags).encode.parts
      (paramPlace (index + 1) "diskName") = [.str (madeUp spec index)] := by
  obtain ⟨asked, listed, awaits⟩ := mem_awaiting_iff.mp awaited
  obtain ⟨persists, nameless⟩ := Bool.and_eq_true_iff.mp awaits
  rw [parts_extraName, listed, Option.bind_some, nameOf?, if_pos persists,
    Option.isNone_iff_eq_none.mp nameless]
  rfl

/-- A made-up name that was given to another disk stands in two places. -/
theorem exists_place_of_given {index : Nat} (awaited : index ∈ awaiting spec)
    (given : madeUp spec index ∈ givenNames spec) :
    ∃ other, other ≠ index + 1 ∧
      (InsertRequest.assemble spec scope resolved tags).encode.parts
        (paramPlace other "diskName") = [.str (madeUp spec index)] := by
  obtain ⟨asked, member, persists, named⟩ := mem_givenNames_iff.mp given
  obtain ⟨place, listed⟩ := List.getElem?_of_mem member
  refine ⟨place + 1, fun same => ?_, ?_⟩
  · obtain ⟨nameless, standing, awaits⟩ := mem_awaiting_iff.mp awaited
    rw [Nat.succ_injective same, standing] at listed
    obtain rfl := Option.some.inj listed
    simp [Spec.ExtraDisk.awaitsName, named] at awaits
  · rw [parts_extraName, listed, Option.bind_some, nameOf?, if_pos persists, named]
    rfl

/-- What is named as another disk was made up for has that name given to it. -/
theorem given_of_parts {index other : Nat} (differs : other ≠ index + 1)
    (named : .str (madeUp spec index) ∈
      (InsertRequest.assemble spec scope resolved tags).encode.parts
        (paramPlace other "diskName")) :
    madeUp spec index ∈ givenNames spec := by
  cases other with
  | zero =>
    rw [parts_bootName] at named
    cases named
  | succ place =>
    rw [parts_extraName] at named
    obtain ⟨name, found, same⟩ := List.mem_map.mp named
    obtain rfl := Json.str.inj same
    obtain ⟨asked, listed, told⟩ := Option.bind_eq_some_iff.mp (Option.mem_toList.mp found)
    unfold nameOf? at told
    split at told
    case isFalse => cases told
    case isTrue persists =>
      cases given : asked.name? with
      | none =>
        rw [given] at told
        exact absurd (congrArg Nat.succ (madeUp_inj.mp (Option.some.inj told))) differs
      | some name =>
        rw [given] at told
        obtain rfl := Option.some.inj told
        exact mem_givenNames_iff.mpr ⟨asked, List.mem_of_getElem? listed, persists, given⟩

/-- Usable names are the made-up ones, since no other stand where names are awaited. -/
theorem UsableNames.madeUp_usable {index : Nat}
    (usable : UsableNames spec (InsertRequest.assemble spec scope resolved tags).encode)
    (awaited : index ∈ awaiting spec) :
    isInstanceName (madeUp spec index) = true ∧
      ∀ other, other ≠ index + 1 → .str (madeUp spec index) ∉
        (InsertRequest.assemble spec scope resolved tags).encode.parts
          (paramPlace other "diskName") := by
  obtain ⟨name, placed, usable⟩ := usable index awaited
  rw [parts_of_awaiting awaited] at placed
  obtain rfl : madeUp spec index = name := by simpa using placed
  exact usable

/-- Where names can be used no made-up one is given to another disk. -/
theorem UsableNames.free {index : Nat}
    (usable : UsableNames spec (InsertRequest.assemble spec scope resolved tags).encode)
    (awaited : index ∈ awaiting spec) : madeUp spec index ∉ givenNames spec := by
  intro given
  obtain ⟨other, differs, twice⟩ := exists_place_of_given awaited given
  exact (usable.madeUp_usable awaited).2 other differs (twice ▸ List.mem_singleton_self _)

end Places

/-- A spec that passes its check has an instance name. -/
theorem isInstanceName_of_check {spec : MachineSpec} (valid : spec.check = .ok ()) :
    isInstanceName spec.instanceName = true := by
  unfold MachineSpec.check at valid
  split at valid
  · cases valid
  split at valid
  · cases valid
  case isFalse named => simpa using named

/-- The names made up for a checked spec are usable exactly when they stay short enough and none
of them was given to a disk. The check looks at neither. -/
theorem usable_iff_fits {spec : MachineSpec} (valid : spec.check = .ok ()) (scope : Scope)
    (resolved : Resolved) (tags : List String) :
    UsableNames spec (InsertRequest.assemble spec scope resolved tags).encode ↔
      NamesFit spec := by
  have short_iff := isInstanceName_madeUp_iff (isInstanceName_of_check valid)
  constructor
  · intro usable
    constructor
    case short => exact fun index awaited => (short_iff index).mp (usable.madeUp_usable awaited).1
    case free => exact fun index awaited => usable.free awaited
  · intro fits index awaited
    refine ⟨madeUp spec index, parts_of_awaiting awaited, ?_, fun other differs named => ?_⟩
    · exact (short_iff index).mpr (fits.short index awaited)
    · exact fits.free index awaited (given_of_parts differs named)

/-- A machine with disks of all kinds: one that exists, a local SSD, and new ones with and without
names. -/
def stackedSpec (name given : String) : MachineSpec where
  instanceName := name
  zone := "europe-west1-b"
  machine := { machineType := "e2-small" }
  bootDisk := { source := some (.customImage "base") }
  additionalDisks := [
    .existing "data" false false none,
    .new none none none true none,
    .new (some "web-disk-2") none (some "local-ssd") true none,
    .new (some given) none none true none,
    .new (some " ") none (some "pd-ssd") true none]

/-- The request for that machine. -/
def stackedBody (name given : String) : Json :=
  (InsertRequest.assemble (stackedSpec name given) ⟨"p", "europe-west1", "europe-west1-b"⟩
    ⟨.image "base", {}⟩ []).encode

/-- A name that leaves room for one digit behind it. -/
def fullName : String := "w-3456789-123456789-123456789-123456789-123456789-123456"

/-- A name that was given to a local SSD may be made up for another disk; one character more than
the full name leaves no room. -/
theorem usable_iff_fits_stackedSpec :
    UsableNames (stackedSpec "web" "logs") (stackedBody "web" "logs") ∧
      UsableNames (stackedSpec fullName "logs") (stackedBody fullName "logs") ∧
      ¬ UsableNames (stackedSpec (fullName ++ "7") "logs")
        (stackedBody (fullName ++ "7") "logs") := by
  refine ⟨?_, ?_, fun usable => ?_⟩
  · exact (usable_iff_fits (by decide +kernel) _ _ _).mpr ⟨by decide +kernel, by decide +kernel⟩
  · exact (usable_iff_fits (by decide +kernel) _ _ _).mpr ⟨by decide +kernel, by decide +kernel⟩
  · have fits := (usable_iff_fits (by decide +kernel) _ _ _).mp usable
    exact absurd (fits.short 1 (by decide +kernel)) (by decide +kernel)

/-- A disk may have been given the name that is made up for another. -/
theorem not_always_usable :
    ¬ ∀ (spec : MachineSpec) (scope : Scope) (resolved : Resolved) (tags : List String),
        spec.check = .ok () →
          UsableNames spec (InsertRequest.assemble spec scope resolved tags).encode := by
  intro always
  have valid : (stackedSpec "web" "web-disk-5").check = .ok () := by decide +kernel
  have usable := always _ ⟨"p", "europe-west1", "europe-west1-b"⟩ ⟨.image "base", {}⟩ [] valid
  have awaited : 4 ∈ awaiting (stackedSpec "web" "web-disk-5") := by decide +kernel
  exact usable.free awaited (by decide +kernel)

end Disks

end VmLaunch
