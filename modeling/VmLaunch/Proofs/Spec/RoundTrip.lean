import VmLaunch.Proofs.Spec.Sections
import VmLaunch.Spec.File

/-!
# Specs are read back

Every section of an encoded spec is plain, so the text of a spec can be read. With the sections
read back from every form of their encodings, a spec is what its encoding says, as a value and as
a text.
-/

namespace VmLaunch

namespace Spec

open Json (Plain)

section Plain

variable {depth : Nat}

/-- An optional text is plain at any depth. -/
@[simp]
theorem plain_optionalStr (text : Option String) : Plain depth (optionalStr text) :=
  Json.plain_optional Json.plain_str text

/-- An optional flag is plain at any depth. -/
@[simp]
theorem plain_optionalFlag (flag : Option Bool) : Plain depth (optionalFlag flag) :=
  Json.plain_optional Json.plain_bool flag

/-- An optional integer is plain at any depth. -/
@[simp]
theorem plain_optionalInt64 (n : Option Int64) : Plain depth (optionalInt64 n) :=
  Json.plain_optional Json.plain_int64 n

/-- A key with its value is one level deep. -/
@[simp]
theorem KeyValue.plain_encode (entry : KeyValue) : Plain (depth + 1) entry.encode := by
  simp [encode]

/-- An accelerator is one level deep. -/
@[simp]
theorem Accelerator.plain_encode (accelerator : Accelerator) :
    Plain (depth + 1) accelerator.encode := by
  simp [encode]

/-- An affinity lists its values, so it is two levels deep. -/
@[simp]
theorem NodeAffinity.plain_encode (affinity : NodeAffinity) :
    Plain (depth + 2) affinity.encode := by
  simp [encode]

/-- The advanced section lists affinities, so it is four levels deep. -/
@[simp]
theorem Advanced.plain_encode (advanced : Advanced) : Plain (depth + 4) advanced.encode := by
  simp [encode]

/-- The management section lists keys with values, so it is three levels deep. -/
@[simp]
theorem Management.plain_encode (management : Management) :
    Plain (depth + 3) management.encode := by
  simp [encode]

/-- The identity section is two levels deep. -/
@[simp]
theorem Identity.plain_encode (identity : Identity) : Plain (depth + 2) identity.encode := by
  simp [encode]

/-- The security section is two levels deep. -/
@[simp]
theorem Security.plain_encode (security : Security) : Plain (depth + 2) security.encode := by
  have checks : Plain (depth + 1) (Json.optional ShieldedVm.encode security.shieldedVm) :=
    Json.plain_optional (fun checks => by simp [ShieldedVm.encode]) _
  have technology : Plain (depth + 1)
      (Json.optional (fun technology => .str technology.word) security.confidentialVmType) :=
    Json.plain_optional (fun _ => Json.plain_str _) _
  simp [encode, checks, technology]

/-- A rule is one level deep. -/
@[simp]
theorem RuleText.plain_encode (rule : RuleText) : Plain (depth + 1) rule.encode := by
  have priority : Plain depth (Json.optional (fun n => Json.int n.toNat) rule.priority) :=
    Json.plain_optional Json.plain_nat32 _
  simp [encode, priority]

/-- An internal address is one level deep. -/
@[simp]
theorem InternalAddress.plain_encode (address : InternalAddress) :
    Plain (depth + 1) address.encode := by
  cases address <;> simp [encode]

/-- An external address is one level deep. -/
@[simp]
theorem ExternalAddress.plain_encode (address : ExternalAddress) :
    Plain (depth + 1) address.encode := by
  cases address <;> simp [encode]

/-- The networking section lists rules, so it is three levels deep. -/
@[simp]
theorem Networking.plain_encode (networking : Networking) :
    Plain (depth + 3) networking.encode := by
  simp [encode]

/-- An additional disk is one level deep. -/
@[simp]
theorem ExtraDisk.plain_encode (disk : ExtraDisk) : Plain (depth + 1) disk.encode := by
  cases disk <;> simp [encode]

/-- The choice of an image is one level deep. -/
@[simp]
theorem ImageChoice.plain_encode (choice : ImageChoice) : Plain (depth + 1) choice.encode := by
  cases choice <;> simp [encode]

/-- A source of the boot disk holds the choice of an image, so it is two levels deep. -/
@[simp]
theorem BootSource.plain_encode (source : BootSource) : Plain (depth + 2) source.encode := by
  cases source <;> simp [encode]

/-- The boot disk holds its source, so it is three levels deep. -/
@[simp]
theorem BootDisk.plain_encode (disk : BootDisk) : Plain (depth + 3) disk.encode := by
  have source : Plain (depth + 2) (Json.optional BootSource.encode disk.source) :=
    Json.plain_optional BootSource.plain_encode _
  simp [encode, source]

end Plain

end Spec

namespace MachineSpec

/-- A spec is written with five levels of lists and objects. -/
theorem plain_encode (spec : MachineSpec) : Json.Plain 5 spec.encode := by
  simp [encode, Spec.Shape.members]

/-- A spec is read back from what it is encoded to: from the value, from the value with its members
sorted, and from the text of the value on one line as well as over several. -/
theorem spec_roundTrip (spec : MachineSpec) :
    decode spec.encode = some spec ∧
      decode spec.encode.normal = some spec ∧
      ofText? .json spec.encode.render = some spec ∧
      ofText? .json spec.encode.pretty = some spec := by
  have plain := plain_encode spec
  have written : decode (Written.ofJson spec.encode) = some spec := decode_tree .written spec
  refine ⟨decode_tree .value spec, decode_tree .sorted spec, ?_, ?_⟩
  · rw [ofText?, Written.parse?_render plain (by decide), Option.bind_some, written]
  · rw [ofText?, Written.parse?_pretty plain (by decide), Option.bind_some, written]

end MachineSpec

end VmLaunch
