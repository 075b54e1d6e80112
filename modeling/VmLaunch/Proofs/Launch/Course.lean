import VmLaunch.Proofs.Launch.Creation
import VmLaunch.Proofs.Launch.Insertion
import VmLaunch.Proofs.Launch.Lookups

/-!
# The course of a launch

A run looks up, creates and inserts. `provision_follows` relates the program to the
courses of its pieces, and `provision_inOrder` states what every run owes to them.
-/

namespace VmLaunch.Launch

/-- What a run does once its spec has passed the check. -/
def launchCourse (env : Environment) (spec : MachineSpec) (scope : Scope)
    (rules : List FirewallRule) : Course Step InstanceSummary :=
  Course.Then (prepareCourse env spec scope rules) fun run =>
    Course.Then (Creating env run.scope.project run.network 0 [] run.rules) fun tags =>
      Inserting env run.scope (InsertRequest.assemble spec run.scope run.resolved tags)
        spec.instanceName

/-- A run of a valid spec takes the course of its stages. -/
theorem provision_follows (env : Environment) (polling : Polling) (signal : Signal)
    {spec : MachineSpec} {rules : List FirewallRule}
    (valid : spec.check = .ok ()) (complete : spec.rules = .ok rules) :
    (provision env polling signal spec).Follows (Step.exchange env)
      (launchCourse env spec (spec.scope env.project) rules) := by
  unfold provision
  refine (prepare_follows env valid complete).inSession.bind fun run => ?_
  refine (createAll_follows env _ _ _ 0 []).inSession.bind fun tags => ?_
  refine Work.Follows.silent_bind (fun session => ?_) fun _ =>
    (insertAndReport_follows env polling signal spec run.scope _).inSession
  unfold forgetRules
  split
  · exact ⟨(), session, rfl, rfl⟩
  · exact ⟨(), _, rfl, rfl⟩

/-- A run of an invalid spec fails before it has done anything. -/
theorem provision_of_invalid (env : Environment) (polling : Polling) (signal : Signal)
    {spec : MachineSpec} {cause : SpecError} (invalid : spec.check = .error cause)
    (session : Session) :
    provision env polling signal spec session = (.error (.invalid cause), session) := by
  have stops : (prepare env spec).inSession session = (.error (.invalid cause), session) := by
    rw [prepare_of_invalid invalid]
    rfl
  exact Work.bind_of_error stops

section Run

variable {env : Environment} {spec : MachineSpec} {scope : Scope}

/-- The steps of a run are in the order of their stages, from the first to the last. -/
theorem launchCourse_segment {rules : List FirewallRule} (complete : spec.rules = .ok rules)
    {steps : List Step} {outcome : Outcome InstanceSummary}
    (way : launchCourse env spec scope rules steps outcome) :
    Segment env (fun stage => stage.Asks spec scope) 0 8 steps outcome := by
  cases way with
  | @passed _ _ run _ prepared after =>
    obtain ⟨rfl, rfl⟩ := prepareCourse_value prepared
    have creations : ∀ steps outcome,
        Creating env run.scope.project run.network 0 [] run.rules steps outcome →
          Segment env (fun stage => stage.Asks spec run.scope) 4 5 steps outcome := by
      intro steps outcome creating
      refine creating.segment fun offset rule found => ?_
      rw [Nat.zero_add]
      exact createCall_asked complete _ offset rule found
    have onward := Segment.ofThen after creations
      (fun tags steps outcome inserting => inserting.segment rfl) (by decide) (by decide)
    exact (prepareCourse_segment prepared).append onward (by decide) (by decide)
  | failed prepared => exact (prepareCourse_segment prepared).stopped (by decide) (by simp)
  | unfinished prepared => exact (prepareCourse_segment prepared).stopped (by decide) (by simp)

/-- A run that comes to its rules has passed its lookups. -/
theorem launchCourse_created {rules : List FirewallRule} {steps : List Step}
    {outcome : Outcome InstanceSummary} (way : launchCourse env spec scope rules steps outcome)
    {step : Step} (member : step ∈ steps) (late : (Stage.rule 0).rank ≤ step.stage.rank) :
    ∃ lookups creations rest run created, steps = lookups ++ (creations ++ rest) ∧
      prepareCourse env spec scope rules lookups (.ok run) ∧
      Creating env run.scope.project run.network 0 [] run.rules creations created ∧
      (rest = [] ∨ ∃ tags, created = .ok tags ∧
        Inserting env run.scope (InsertRequest.assemble spec run.scope run.resolved tags)
          spec.instanceName rest outcome) := by
  have lookups : ∀ {steps : List Step} {outcome : Outcome Prepared},
      prepareCourse env spec scope rules steps outcome → step ∉ steps := by
    intro steps outcome prepared among
    have place := (prepareCourse_segment prepared).placed step among
    exact absurd place.2 (Nat.not_lt_of_le late)
  cases way with
  | failed prepared => exact absurd member (lookups prepared)
  | unfinished prepared => exact absurd member (lookups prepared)
  | passed prepared after =>
    cases after with
    | failed creating => exact ⟨_, _, [], _, _, by simp, prepared, creating, .inl rfl⟩
    | unfinished creating => exact ⟨_, _, [], _, _, by simp, prepared, creating, .inl rfl⟩
    | passed creating inserting =>
      exact ⟨_, _, _, _, _, rfl, prepared, creating, .inr ⟨_, rfl, inserting⟩⟩

/-- A run that comes to its insert has passed its lookups and its creations. -/
theorem launchCourse_late {rules : List FirewallRule} {steps : List Step}
    {outcome : Outcome InstanceSummary} (way : launchCourse env spec scope rules steps outcome)
    {step : Step} (member : step ∈ steps) (late : Stage.insert.rank ≤ step.stage.rank) :
    ∃ lookups creations rest run tags, steps = lookups ++ (creations ++ rest) ∧
      prepareCourse env spec scope rules lookups (.ok run) ∧
      Creating env run.scope.project run.network 0 [] run.rules creations (.ok tags) ∧
      Inserting env run.scope (InsertRequest.assemble spec run.scope run.resolved tags)
        spec.instanceName rest outcome ∧ step ∈ rest := by
  have behind : (Stage.rule 0).rank ≤ step.stage.rank := Nat.le_trans (Nat.le_succ 4) late
  obtain ⟨lookups, creations, rest, run, created, rfl, prepared, creating, onward⟩ :=
    launchCourse_created way member behind
  have last : step ∈ rest := by
    rcases List.mem_append.mp member with first | second
    · have place := (prepareCourse_segment prepared).placed step first
      exact absurd place.2 (Nat.not_lt_of_le behind)
    rcases List.mem_append.mp second with middle | last
    · exact absurd (creating.earlier step middle) (Nat.not_lt_of_le late)
    · exact last
  rcases onward with rfl | ⟨tags, rfl, inserting⟩
  · cases last
  · exact ⟨lookups, creations, rest, run, tags, rfl, prepared, creating, inserting, last⟩

/-- Polls come after the insert and ask for the operation that it was answered with. -/
theorem launchCourse_polled {rules : List FirewallRule} {steps : List Step}
    {outcome : Outcome InstanceSummary}
    (way : launchCourse env spec scope rules steps outcome) :
    ∀ step ∈ steps, step.stage = .poll → ∃ insert ∈ steps, insert.stage = .insert ∧
      ∃ operation, Operation.ofAnswer? (insert.answer env) = some operation ∧
        step.call = .get (Operation.path scope operation.name) := by
  intro step member stage
  obtain ⟨lookups, creations, rest, run, tags, rfl, prepared, -, inserting, last⟩ :=
    launchCourse_late way member (by rw [stage]; decide)
  obtain ⟨rfl, -⟩ := prepareCourse_value prepared
  obtain ⟨insert, among, found⟩ := inserting.polled step last stage
  exact ⟨insert, by simp [among], found⟩

/-- The steps of a run are in order. -/
theorem launchCourse_inOrder {rules : List FirewallRule} (complete : spec.rules = .ok rules)
    {steps : List Step} {outcome : Outcome InstanceSummary}
    (way : launchCourse env spec scope rules steps outcome) : InOrder env spec scope steps :=
  have segment := launchCourse_segment complete way
  ⟨segment.ordered, segment.asked, segment.accepted, launchCourse_polled way⟩

end Run

/-- A run takes steps in order, and ends as their course does. -/
theorem provision_inOrder (env : Environment) (polling : Polling) (signal : Signal)
    (spec : MachineSpec) (session : Session) :
    ∃ steps : List Step,
      (provision env polling signal spec session).2.world.history =
        session.world.history ++ steps.map (Step.exchange env) ∧
      InOrder env spec (spec.scope env.project) steps ∧
      ((∃ cause, spec.check = .error cause ∧ steps = [] ∧
          (provision env polling signal spec session).1 = .error (.invalid cause)) ∨
        (spec.check = .ok () ∧ ∃ rules, spec.rules = .ok rules ∧
          launchCourse env spec (spec.scope env.project) rules steps
            (provision env polling signal spec session).1)) := by
  cases valid : spec.check with
  | error cause =>
    rw [provision_of_invalid env polling signal valid]
    exact ⟨[], by simp, ⟨.nil, by simp, by simp, by simp⟩, .inl ⟨cause, rfl, rfl, rfl⟩⟩
  | ok value =>
    obtain ⟨-, rules, complete⟩ := rules_of_check valid
    obtain ⟨steps, added, way⟩ := provision_follows env polling signal valid complete session
    exact ⟨steps, added, launchCourse_inOrder complete way, .inr ⟨rfl, rules, complete, way⟩⟩

end VmLaunch.Launch
