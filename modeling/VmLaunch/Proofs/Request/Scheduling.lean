import VmLaunch.Proofs.Request.Wire

/-!
# The scheduling of a request

The scheduling of a request has to agree with its other sections: a machine that is sold as spot
capacity, has accelerators or encrypts its memory cannot migrate. `Consistent` reads both from the
body that is sent, so it is about the accelerators that are left and not about those of the spec.
-/

namespace VmLaunch

namespace Scheduling

open Json (parts)

/-- What the scheduling of a body says under a key. -/
def said (key : String) (body : Json) : List Json :=
  body.parts [.member "scheduling", .member key]

/-- The accelerators that a body asks for. -/
def accelerated (body : Json) : List Json :=
  body.parts [.member "guestAccelerators", .items]

/-- Whether a body asks for spot capacity. -/
def IsSpot (body : Json) : Prop :=
  said "provisioningModel" body = [.str "SPOT"]

/-- Whether a body asks for a machine that cannot migrate. -/
def IsBound (body : Json) : Prop :=
  IsSpot body ∨ accelerated body ≠ [] ∨ (body.get? "confidentialInstanceConfig").isSome

/-- Whether accelerators of a spec can be asked for. -/
def Usable (asked : Spec.Accelerator) : Prop :=
  Text.trim asked.acceleratorType ≠ "" ∧ 1 ≤ asked.count.toInt

instance (asked : Spec.Accelerator) : Decidable (Usable asked) :=
  inferInstanceAs (Decidable (_ ∧ _))

/-- How accelerators of a spec are asked for. -/
def request (scope : Scope) (asked : Spec.Accelerator) : Json :=
  .obj [("acceleratorType",
      .str (acceleratorTypePath (Text.trim asked.acceleratorType) scope.project scope.zone)),
    ("acceleratorCount", Json.int asked.count.toInt)]

/-- The scheduling of a body agrees with its other sections. What they leave open is as the spec
has it. -/
structure Consistent (spec : MachineSpec) (scope : Scope) (body : Json) : Prop where
  model : said "provisioningModel" body = [.str spec.machine.provisioningModel.word]
  bound : IsBound body → said "onHostMaintenance" body = [.str "TERMINATE"]
  free : ¬ IsBound body →
    said "onHostMaintenance" body = [.str spec.management.onHostMaintenance.word]
  spot : IsSpot body → said "preemptible" body = [.bool true] ∧
    said "instanceTerminationAction" body = [.str "STOP"] ∧
    said "automaticRestart" body = [.bool false]
  standard : ¬ IsSpot body → said "preemptible" body = [.bool false] ∧
    said "instanceTerminationAction" body = [] ∧
    said "automaticRestart" body = [.bool spec.management.automaticRestart]
  asked : accelerated body =
    (spec.advanced.accelerators.filter fun asked => Usable asked).map (request scope)
  absent : body.get? "guestAccelerators" = none ↔ accelerated body = []

section Accelerators

variable (scope : Scope) {asked : Spec.Accelerator}

/-- Usable accelerators are asked for. -/
theorem ofSpec?_of_usable (usable : Usable asked) :
    (GuestAccelerator.ofSpec? scope asked).map GuestAccelerator.encode =
      some (request scope asked) := by
  obtain ⟨named, counted⟩ := usable
  have filled : Text.filled? asked.acceleratorType = some (Text.trim asked.acceleratorType) :=
    Text.filled?_eq_some_iff.mpr ⟨rfl, named⟩
  simp [GuestAccelerator.ofSpec?, filled, counted, GuestAccelerator.encode, request]

/-- Accelerators that are not usable are not asked for. -/
theorem ofSpec?_of_not_usable (useless : ¬ Usable asked) :
    GuestAccelerator.ofSpec? scope asked = none := by
  unfold GuestAccelerator.ofSpec?
  cases filled : Text.filled? asked.acceleratorType with
  | none => rfl
  | some name =>
    obtain ⟨rfl, named⟩ := Text.filled?_eq_some_iff.mp filled
    have uncounted : ¬ 1 ≤ asked.count.toInt := fun counted => useless ⟨named, counted⟩
    simp [uncounted]

/-- The accelerators of a spec that can be asked for are, and in their order. -/
theorem encode_ofSpecs (scope : Scope) (asked : List Spec.Accelerator) :
    (GuestAccelerator.ofSpecs scope asked).map GuestAccelerator.encode =
      (asked.filter fun accelerator => Usable accelerator).map (request scope) := by
  unfold GuestAccelerator.ofSpecs
  induction asked with
  | nil => rfl
  | cons first rest inductionHypothesis =>
    by_cases usable : Usable first
    · have kept := ofSpec?_of_usable scope usable
      obtain ⟨accelerator, made, written⟩ := Option.map_eq_some_iff.mp kept
      rw [List.filterMap_cons_some made, List.filter_cons_of_pos (by simpa using usable),
        List.map_cons, List.map_cons, inductionHypothesis, written]
    · rw [List.filterMap_cons_none (ofSpec?_of_not_usable scope usable),
        List.filter_cons_of_neg (by simpa using usable), inductionHypothesis]

/-- An accelerator without a count is not asked for, whatever its type. -/
example : ¬ Usable { acceleratorType := "nvidia-l4" } := by decide +kernel

end Accelerators

section Body

variable (request : InsertRequest)

/-- What a request says under a key is what its scheduling says. -/
theorem said_encode (key : String) :
    said key request.encode = (request.scheduling.encode.get? key).toList := by
  simp [said, InsertRequest.encode, List.lookup_append]

/-- A request says its provisioning model. -/
theorem said_model :
    said "provisioningModel" request.encode = [.str request.scheduling.model.word] := by
  rw [said_encode]
  simp [encode]

/-- A request says what is done at maintenance. -/
theorem said_maintenance :
    said "onHostMaintenance" request.encode = [.str request.scheduling.onHostMaintenance.word] := by
  rw [said_encode]
  simp [encode]

/-- A request says whether the machine is restarted. -/
theorem said_restart :
    said "automaticRestart" request.encode = [.bool request.scheduling.automaticRestart] := by
  rw [said_encode]
  simp [encode]

/-- A request says whether the machine is preemptible. -/
theorem said_preemptible :
    said "preemptible" request.encode = [.bool request.scheduling.preemptible] := by
  rw [said_encode]
  simp [encode]

/-- A request says what is done at the end when that is given. -/
theorem said_termination :
    said "instanceTerminationAction" request.encode =
      (request.scheduling.terminationAction.map Json.str).toList := by
  rw [said_encode]
  simp [encode, List.lookup_append]

/-- A request asks for its accelerators. -/
theorem accelerated_encode :
    accelerated request.encode = request.accelerators.map GuestAccelerator.encode := by
  cases asked : request.accelerators <;>
    simp [accelerated, InsertRequest.encode, List.lookup_append, asked]

/-- A request without accelerators has no member for them. -/
theorem get?_guestAccelerators :
    request.encode.get? "guestAccelerators" = none ↔ request.accelerators = [] := by
  simp [InsertRequest.encode, List.lookup_append]

/-- A request has the technology that the spec names. -/
theorem get?_confidential :
    request.encode.get? "confidentialInstanceConfig" =
      request.confidentialType.map Protection.encodeConfidential := by
  simp [InsertRequest.encode, List.lookup_append]

/-- A request asks for spot capacity when its model says so. -/
theorem isSpot_encode : IsSpot request.encode ↔ request.scheduling.model = .spot := by
  unfold IsSpot
  rw [said_model]
  cases request.scheduling.model <;> simp [Spec.ProvisioningModel.word]

/-- A request asks for a machine that cannot migrate by its model, by accelerators or by a
technology. -/
theorem isBound_encode :
    IsBound request.encode ↔ request.scheduling.model = .spot ∨ request.accelerators ≠ [] ∨
      request.confidentialType.isSome := by
  unfold IsBound
  rw [isSpot_encode, accelerated_encode, get?_confidential, Option.isSome_map, ne_eq,
    List.map_eq_nil_iff]

end Body

section Sections

variable {spec : MachineSpec} {accelerated : Bool}

/-- Spot capacity is stopped, is not restarted and does not migrate. -/
theorem ofSpec_spot (spot : spec.machine.provisioningModel = .spot) :
    (ofSpec spec accelerated).onHostMaintenance = .terminate ∧
      (ofSpec spec accelerated).automaticRestart = false := by
  simp [ofSpec, spot]

/-- Other machines are scheduled as the spec has it, but for those that cannot migrate. -/
theorem ofSpec_standard (standard : spec.machine.provisioningModel = .standard) :
    (ofSpec spec accelerated).onHostMaintenance =
        (if accelerated = true ∨ spec.security.confidentialVmType.isSome then .terminate
          else spec.management.onHostMaintenance) ∧
      (ofSpec spec accelerated).automaticRestart = spec.management.automaticRestart := by
  simp [ofSpec, standard, maintenanceOf]

/-- The provisioning model is that of the spec. -/
theorem ofSpec_model : (ofSpec spec accelerated).model = spec.machine.provisioningModel := by
  cases sold : spec.machine.provisioningModel <;> simp [ofSpec, sold]

end Sections

/-- The scheduling of every request agrees with the rest of it. -/
theorem assemble_consistent (spec : MachineSpec) (scope : Scope) (resolved : Resolved)
    (ruleTags : List String) :
    Consistent spec scope (InsertRequest.assemble spec scope resolved ruleTags).encode := by
  generalize composed : InsertRequest.assemble spec scope resolved ruleTags = request
  have accelerators : request.accelerators =
      GuestAccelerator.ofSpecs scope spec.advanced.accelerators := by rw [← composed]; rfl
  have confidential : request.confidentialType = spec.security.confidentialVmType := by
    rw [← composed]; rfl
  have scheduling : request.scheduling = ofSpec spec (!request.accelerators.isEmpty) := by
    rw [← composed]; rfl
  have model : request.scheduling.model = spec.machine.provisioningModel := by
    rw [scheduling, ofSpec_model]
  have isSpot : IsSpot request.encode ↔ spec.machine.provisioningModel = .spot := by
    rw [isSpot_encode, model]
  have isBound : IsBound request.encode ↔ spec.machine.provisioningModel = .spot ∨
      (!request.accelerators.isEmpty) = true ∨ spec.security.confidentialVmType.isSome := by
    rw [isBound_encode, model, confidential]
    simp
  constructor
  case model => rw [said_model, model]
  case bound =>
    intro bound
    rw [said_maintenance, scheduling]
    cases sold : spec.machine.provisioningModel with
    | spot =>
      rw [(ofSpec_spot sold).1]
      rfl
    | standard =>
      have pinned := (isBound.mp bound).resolve_left (by simp [sold])
      rw [(ofSpec_standard sold).1, if_pos pinned]
      rfl
  case free =>
    intro free
    rw [isBound, not_or] at free
    obtain ⟨other, unpinned⟩ := free
    cases sold : spec.machine.provisioningModel with
    | spot => exact absurd sold other
    | standard => rw [said_maintenance, scheduling, (ofSpec_standard sold).1, if_neg unpinned]
  case spot =>
    intro spot
    have sold := isSpot.mp spot
    refine ⟨?_, ?_, ?_⟩
    · rw [said_preemptible, preemptible, model, sold]
      rfl
    · rw [said_termination, terminationAction, model, sold]
      rfl
    · rw [said_restart, scheduling, (ofSpec_spot sold).2]
  case standard =>
    intro other
    cases sold : spec.machine.provisioningModel with
    | spot => exact absurd (isSpot.mpr sold) other
    | standard =>
      refine ⟨?_, ?_, ?_⟩
      · rw [said_preemptible, preemptible, model, sold]
        rfl
      · rw [said_termination, terminationAction, model, sold]
        rfl
      · rw [said_restart, scheduling, (ofSpec_standard sold).2]
  case asked => rw [accelerated_encode, accelerators, encode_ofSpecs]
  case absent => rw [get?_guestAccelerators, accelerated_encode, List.map_eq_nil_iff]

end Scheduling

end VmLaunch
