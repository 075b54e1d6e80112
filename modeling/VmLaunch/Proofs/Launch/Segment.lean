import VmLaunch.Proofs.Inquiry
import VmLaunch.Proofs.Launch.Stage

/-!
# Segments

A `Segment` is a part of a run whose stages lie within bounds; segments with
adjoining bounds compose. Every piece of a launch is shown to be a segment beside
its own course, and the order of a whole run follows.
-/

namespace VmLaunch.Launch

/-- A part of a run: steps of stages within bounds, in order and each after accepted
steps only; when the part passes, all its steps were accepted. -/
structure Segment {α : Type} (env : Environment) (asks : Stage → Call → Prop) (low high : Nat)
    (steps : List Step) (outcome : Outcome α) : Prop where
  ordered : steps.Pairwise fun early late => early.stage.Precedes late.stage
  asked : ∀ step ∈ steps, asks step.stage step.call
  accepted : ∀ step ∈ steps.dropLast, step.Accepted env
  placed : ∀ step ∈ steps, low ≤ step.stage.rank ∧ step.stage.rank < high
  passed : ∀ value, outcome = .ok value → ∀ step ∈ steps, step.Accepted env

namespace Segment

variable {α β : Type} {env : Environment} {asks : Stage → Call → Prop} {low middle high : Nat}
  {steps rest : List Step}

/-- Nothing was asked. -/
theorem nil (outcome : Outcome α) : Segment env asks low high [] outcome where
  ordered := .nil
  asked := by simp
  accepted := by simp
  placed := by simp
  passed := by simp

/-- One step was made, which is accepted if the part passes. -/
theorem single {step : Step} {outcome : Outcome α} (asked : asks step.stage step.call)
    (low_le : low ≤ step.stage.rank) (lt_high : step.stage.rank < high)
    (passed : ∀ value, outcome = .ok value → step.Accepted env) :
    Segment env asks low high [step] outcome where
  ordered := List.pairwise_singleton _ _
  asked := by simpa using asked
  accepted := by simp
  placed := by simpa using ⟨low_le, lt_high⟩
  passed := by simpa using passed

/-- A part that was left early is a part of every longer run. -/
theorem stopped {outcome : Outcome α} {final : Outcome β}
    (segment : Segment env asks low middle steps outcome) (upper : middle ≤ high)
    (fails : ∀ value, final ≠ .ok value) : Segment env asks low high steps final where
  ordered := segment.ordered
  asked := segment.asked
  accepted := segment.accepted
  placed step member :=
    ⟨(segment.placed step member).1, Nat.lt_of_lt_of_le (segment.placed step member).2 upper⟩
  passed value passes := absurd passes (fails value)

/-- A part that passed is followed by the next. -/
theorem append {value : α} {outcome : Outcome β}
    (head : Segment env asks low middle steps (.ok value))
    (tail : Segment env asks middle high rest outcome)
    (lower : low ≤ middle) (upper : middle ≤ high) :
    Segment env asks low high (steps ++ rest) outcome where
  ordered := by
    refine List.pairwise_append.mpr ⟨head.ordered, tail.ordered, fun early first late last => ?_⟩
    exact Stage.precedes_of_rank_lt
      (Nat.lt_of_lt_of_le (head.placed early first).2 (tail.placed late last).1)
  asked step member := by
    rcases List.mem_append.mp member with first | last
    · exact head.asked step first
    · exact tail.asked step last
  accepted step member := by
    by_cases vacant : rest = []
    · subst vacant
      rw [List.append_nil] at member
      exact head.accepted step member
    · rw [List.dropLast_append_of_ne_nil vacant] at member
      rcases List.mem_append.mp member with first | last
      · exact head.passed value rfl step first
      · exact tail.accepted step last
  placed step member := by
    rcases List.mem_append.mp member with first | last
    · have place := head.placed step first
      omega
    · have place := tail.placed step last
      omega
  passed final passes step member := by
    rcases List.mem_append.mp member with first | last
    · exact head.passed value rfl step first
    · exact tail.passed final passes step last

/-- An accepted step is followed by a part that it may precede. -/
theorem cons {step : Step} {outcome : Outcome α} (asked : asks step.stage step.call)
    (accepted : step.Accepted env) (tail : Segment env asks middle high steps outcome)
    (before : ∀ late ∈ steps, step.stage.Precedes late.stage)
    (low_le : low ≤ step.stage.rank) (lt_high : step.stage.rank < high) (lower : low ≤ middle) :
    Segment env asks low high (step :: steps) outcome where
  ordered := List.pairwise_cons.mpr ⟨before, tail.ordered⟩
  asked := List.forall_mem_cons.mpr ⟨asked, tail.asked⟩
  accepted := by
    cases steps with
    | nil => simp
    | cons next others => exact List.forall_mem_cons.mpr ⟨accepted, tail.accepted⟩
  placed := by
    refine List.forall_mem_cons.mpr ⟨⟨low_le, lt_high⟩, fun late member => ?_⟩
    have place := tail.placed late member
    omega
  passed value passes := List.forall_mem_cons.mpr ⟨accepted, tail.passed value passes⟩

/-- Courses of segments compose to a course of segments. -/
theorem ofThen {first : Course Step α} {next : α → Course Step β} {outcome : Outcome β}
    (way : first.Then next steps outcome)
    (head : ∀ steps outcome, first steps outcome → Segment env asks low middle steps outcome)
    (tail : ∀ value steps outcome, next value steps outcome →
      Segment env asks middle high steps outcome)
    (lower : low ≤ middle) (upper : middle ≤ high) :
    Segment env asks low high steps outcome := by
  cases way with
  | passed entry after => exact (head _ _ entry).append (tail _ _ _ after) lower upper
  | failed stop => exact (head _ _ stop).stopped upper (by simp)
  | unfinished stop => exact (head _ _ stop).stopped upper (by simp)

/-- An inquiry that serves a stage makes a segment of that stage. -/
theorem ofInquiry {inquiry : Inquiry α} {stage : Stage} {outcome : Outcome α}
    (way : inquiry.course env (Step.mk stage) steps outcome)
    (serves : inquiry.Serves (asks stage) stage.Accepts) :
    Segment env asks stage.rank (stage.rank + 1) steps outcome := by
  cases serves with
  | decided =>
    obtain ⟨rfl, -⟩ := way
    exact nil outcome
  | @asking call judge asked accepted =>
    obtain ⟨world, rfl, ends⟩ := way
    refine single asked (Nat.le_refl _) (Nat.lt_succ_self _) fun value passes => ?_
    refine accepted (env.reply world call).answer value ?_
    rw [passes] at ends
    cases judged : judge (env.reply world call).answer with
    | ok found =>
      rw [judged] at ends
      cases ends
      rfl
    | error cause =>
      rw [judged] at ends
      cases ends

/-- A segment of lookups changes nothing. -/
theorem harmless {spec : MachineSpec} {scope : Scope} {outcome : Outcome α}
    (segment : Segment env (fun stage => stage.Asks spec scope) low high steps outcome)
    (lookups : high ≤ (Stage.rule 0).rank) : ∀ step ∈ steps, step.call.isPost = false :=
  fun step member => Stage.not_isPost_of_asks (segment.asked step member)
    (Nat.lt_of_lt_of_le (segment.placed step member).2 lookups)

end Segment

end VmLaunch.Launch
