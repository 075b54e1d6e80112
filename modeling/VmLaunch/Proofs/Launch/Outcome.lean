import VmLaunch.Proofs.Launch.Ending

/-!
# What an outcome tells

The outcome of a launch tells its caller how far the run came. `Told` adds to the
ending of a run what it tells about the check and the lookups, and
`provision_outcome` states that every run is told so.
-/

namespace VmLaunch.Launch

variable {env : Environment} {spec : MachineSpec} {scope : Scope}

/-- A wait that passes has seen its operation succeed. -/
theorem Waiting.succeeded {operation : String} {steps : List Step} {outcome : Outcome Operation}
    (waiting : Waiting env scope operation steps outcome) :
    ∀ value, outcome = .ok value → OperationSucceeded env steps := by
  induction waiting with
  | cancelled => exact fun value passed => nomatch passed
  | expired => exact fun value passed => nomatch passed
  | unfinished => exact fun value passed => nomatch passed
  | refused => exact fun value passed => nomatch passed
  | failed => exact fun value passed => nomatch passed
  | done judged checked =>
    exact fun value passed => ⟨_, List.mem_cons_self, .inr rfl, _,
      Operation.judge_eq_ok_iff.mp judged, Operation.check_eq_done_iff.mp checked⟩
  | pending judged checked after inductionHypothesis =>
    intro value passed
    obtain ⟨step, member, rest⟩ := inductionHypothesis value passed
    exact ⟨step, List.mem_cons_of_mem _ member, rest⟩

/-- A wait that is cancelled has seen its operation pending only. -/
theorem Waiting.pending_of_cancelled {operation : String} {steps : List Step}
    {outcome : Outcome Operation} (waiting : Waiting env scope operation steps outcome) :
    ∀ stopped, outcome = .error (.cancelled stopped) → OperationPending env steps := by
  have refusals : ∀ {operation : Operation} {stopped : Stopped},
      operation.check ≠ .error (.cancelled stopped) := by
    intro operation stopped refused
    rcases Operation.check_eq_error refused with ⟨reason, other⟩ | ⟨name, status, other⟩
    · cases other
    · cases other
  induction waiting with
  | cancelled => exact fun stopped _ step member => absurd member (by simp)
  | expired => exact fun stopped failed => nomatch failed
  | unfinished => exact fun stopped failed => nomatch failed
  | refused judged =>
    intro stopped failed
    cases failed
    rcases Operation.judge_eq_error judged with ⟨fault, other⟩ | other
    · cases other
    · cases other
  | failed judged checked =>
    intro stopped failed
    cases failed
    exact absurd checked refusals
  | done => exact fun stopped failed => nomatch failed
  | pending judged checked after inductionHypothesis =>
    intro stopped failed
    refine List.forall_mem_cons.mpr ⟨fun _ => ?_, inductionHypothesis stopped failed⟩
    exact ⟨_, Operation.judge_eq_ok_iff.mp judged, Operation.check_eq_pending_iff.mp checked⟩

/-- The errors of a wait. -/
theorem Waiting.blames {operation : String} {steps : List Step} {outcome : Outcome Operation}
    (waiting : Waiting env scope operation steps outcome) :
    ∀ cause, outcome = .error cause →
      ¬ cause.IsEarly ∧ ∀ name fault, cause ≠ .unreadableInstance name fault := by
  induction waiting with
  | cancelled =>
    intro cause failed
    cases failed
    simp [LaunchError.IsEarly]
  | expired =>
    intro cause failed
    cases failed
    simp [LaunchError.IsEarly]
  | unfinished => exact fun cause failed => nomatch failed
  | refused judged =>
    intro cause failed
    cases failed
    rcases Operation.judge_eq_error judged with ⟨fault, rfl⟩ | rfl <;> simp [LaunchError.IsEarly]
  | failed judged checked =>
    intro cause failed
    cases failed
    rcases Operation.check_eq_error checked with ⟨reason, rfl⟩ | ⟨name, status, rfl⟩ <;>
      simp [LaunchError.IsEarly]
  | done => exact fun cause failed => nomatch failed
  | pending _ _ _ inductionHypothesis => exact inductionHypothesis

/-- Whatever happens to an insert, its outcome tells. -/
theorem Inserting.ending {request : InsertRequest} {label : String} {steps : List Step}
    {outcome : Outcome InstanceSummary}
    (inserting : Inserting env scope request label steps outcome) : Ending env steps outcome := by
  cases inserting with
  | cancelled =>
    refine Ending.unread (by simp) (by simp) (by simp) (fun cause failed about => ?_)
      fun _ _ => .inl (by simp)
    cases failed
    exact about.elim
  | refused judged =>
    refine Ending.plain (fun cause failed => ?_) (by simp) (by simp [insertStep])
    cases failed
    rcases insertJudge_eq_error judged with ⟨task, fault, rfl⟩ | ⟨what, rfl⟩ <;> trivial
  | failed judged checked =>
    have accepted := insertAccepted_cons rfl judged (List.forall_mem_nil _)
    rcases Operation.check_eq_error checked with ⟨reason, rfl⟩ | ⟨name, status, rfl⟩
    · exact Ending.stopped accepted (by simp [insertStep]) (by simp) (by simp) (by simp)
    · exact Ending.stopped accepted (by simp [insertStep]) (by simp) (by simp) (by simp)
  | done judged checked after =>
    obtain ⟨held, -⟩ := insertJudge_eq_ok_iff.mp judged
    have accepted := insertAccepted_cons rfl judged after.not_insert
    exact Ending.reading accepted ⟨_, List.mem_singleton_self _, .inl rfl, _, held,
      Operation.check_eq_done_iff.mp checked⟩ (by simp [insertStep]) after
  | @waited requestId world operation rest outcome judged checked after =>
    obtain ⟨held, -⟩ := insertJudge_eq_ok_iff.mp judged
    have polls : ∀ {steps : List Step} {outcome : Outcome Operation},
        Waiting env scope operation.name steps outcome →
          ∀ step ∈ steps, step.stage ≠ .insert ∧ step.stage ≠ .fetch := by
      intro steps outcome waiting step member
      obtain ⟨world, rfl⟩ := waiting.polls step member
      simp [pollStep]
    have unread : ∀ {steps : List Step} {outcome : Outcome Operation},
        Waiting env scope operation.name steps outcome →
          ∀ step ∈ insertStep scope request requestId world :: steps, step.stage ≠ .fetch := by
      intro steps outcome waiting
      exact List.forall_mem_cons.mpr
        ⟨by simp [insertStep], fun step member => (polls waiting step member).2⟩
    cases after with
    | @passed front back value outcome waiting reading =>
      have later : ∀ step ∈ front ++ back, step.stage ≠ .insert := by
        intro step member
        rcases List.mem_append.mp member with first | last
        · exact (polls waiting step first).1
        · exact reading.not_insert step last
      have succeeded :
          OperationSucceeded env (insertStep scope request requestId world :: front) := by
        obtain ⟨step, member, succeeded⟩ := waiting.succeeded value rfl
        exact ⟨step, List.mem_cons_of_mem _ member, succeeded⟩
      rw [← List.cons_append]
      exact Ending.reading (insertAccepted_cons rfl judged later) succeeded (unread waiting) reading
    | failed waiting =>
      refine Ending.stopped (insertAccepted_cons rfl judged fun step member =>
        (polls waiting step member).1) (unread waiting) (by simp) (fun name fault failed => ?_)
        fun stopped failed => List.forall_mem_cons.mpr ⟨fun _ => ?_, ?_⟩
      · cases failed
        exact (waiting.blames _ rfl).2 name fault rfl
      · exact ⟨operation, held, Operation.check_eq_pending_iff.mp checked⟩
      · cases failed
        exact waiting.pending_of_cancelled stopped rfl
    | unfinished waiting =>
      exact Ending.stopped (insertAccepted_cons rfl judged fun step member =>
        (polls waiting step member).1) (unread waiting) (by simp) (by simp) (by simp)

/-- Whatever happens to an insert, it fails for no early reason. -/
theorem Inserting.blames {request : InsertRequest} {label : String} {steps : List Step}
    {outcome : Outcome InstanceSummary}
    (inserting : Inserting env scope request label steps outcome) :
    ∀ cause, outcome = .error cause → ¬ cause.IsEarly := by
  have readings : ∀ {name : String} {steps : List Step} {outcome : Outcome InstanceSummary},
      Reading env scope name steps outcome → ∀ cause, outcome = .error cause → ¬ cause.IsEarly := by
    intro name steps outcome reading cause failed
    cases reading with
    | failed =>
      cases failed
      exact id
    | read => cases failed
  cases inserting with
  | cancelled =>
    intro cause failed
    cases failed
    exact id
  | refused judged =>
    intro cause failed
    cases failed
    rcases insertJudge_eq_error judged with ⟨task, fault, rfl⟩ | ⟨what, rfl⟩ <;> exact id
  | failed judged checked =>
    intro cause failed
    cases failed
    rcases Operation.check_eq_error checked with ⟨reason, rfl⟩ | ⟨name, status, rfl⟩ <;> exact id
  | done judged checked after => exact readings after
  | waited judged checked after =>
    cases after with
    | passed waiting reading => exact readings reading
    | failed waiting =>
      intro cause failed
      cases failed
      exact (waiting.blames _ rfl).1
    | unfinished => exact fun cause failed => nomatch failed

section Run

variable {rules : List FirewallRule} {steps : List Step} {outcome : Outcome InstanceSummary}

/-- The lookups come before the first rule. -/
theorem prepareCourse_earlier {prepared : Outcome Prepared}
    (way : prepareCourse env spec scope rules steps prepared) :
    ∀ step ∈ steps, step.stage.rank < (Stage.rule 0).rank :=
  fun step member => ((prepareCourse_segment way).placed step member).2

private theorem not_fetch_of_rank_lt {stage : Stage} (place : stage.rank < Stage.insert.rank) :
    stage ≠ .fetch := by
  rintro rfl
  exact absurd place (by decide)

/-- A run ends in one of the ways that its steps call for. -/
theorem launchCourse_ending {source : Spec.BootSource}
    (given : spec.bootDisk.source = some source)
    (way : launchCourse env spec scope rules steps outcome) : Ending env steps outcome := by
  have lookups : ∀ {steps : List Step} {prepared : Outcome Prepared},
      prepareCourse env spec scope rules steps prepared →
        ∀ step ∈ steps, step.stage.rank < Stage.insert.rank :=
    fun way step member => Nat.lt_succ_of_lt (prepareCourse_earlier way step member)
  cases way with
  | @failed _ cause prepared =>
    refine Ending.plain (fun other failed => ?_) (by simp)
      fun step member => not_fetch_of_rank_lt (lookups prepared step member)
    cases failed
    have blamed := prepareCourse_blames given prepared
    cases cause <;> simp_all [LaunchError.FromLookup, LaunchError.IsPlain]
  | unfinished prepared =>
    exact Ending.plain (by simp) (by simp)
      fun step member => not_fetch_of_rank_lt (lookups prepared step member)
  | passed prepared after =>
    obtain ⟨rfl, rfl⟩ := prepareCourse_value prepared
    refine Ending.prepend (lookups prepared) ?_
    cases after with
    | @failed _ cause creating =>
      refine Ending.plain (fun other failed => ?_) (by simp)
        fun step member => not_fetch_of_rank_lt (creating.earlier step member)
      cases failed
      obtain ⟨task, fault, rfl⟩ := creating.blames cause rfl
      trivial
    | unfinished creating =>
      exact Ending.plain (by simp) (by simp)
        fun step member => not_fetch_of_rank_lt (creating.earlier step member)
    | passed creating inserting => exact Ending.prepend creating.earlier inserting.ending

/-- A run that fails early has failed in its lookups, and not for its spec. -/
theorem launchCourse_early {source : Spec.BootSource}
    (given : spec.bootDisk.source = some source)
    (way : launchCourse env spec scope rules steps outcome) {cause : LaunchError}
    (failed : outcome = .error cause) (early : cause.IsEarly) :
    cause.FromLookup ∧ ∀ step ∈ steps, step.stage.rank < (Stage.rule 0).rank := by
  cases way with
  | failed prepared =>
    cases failed
    exact ⟨prepareCourse_blames given prepared, prepareCourse_earlier prepared⟩
  | unfinished prepared => cases failed
  | passed prepared after =>
    cases after with
    | failed creating =>
      cases failed
      obtain ⟨task, fault, rfl⟩ := creating.blames cause rfl
      exact early.elim
    | unfinished creating => cases failed
    | passed creating inserting => exact absurd early (inserting.blames cause failed)

end Run

/-- What an outcome tells about a whole run. An invalid spec is told before any call,
and an unresolved lookup before any change. -/
structure Told (env : Environment) (spec : MachineSpec) (steps : List Step)
    (outcome : Outcome InstanceSummary) : Prop extends Ending env steps outcome where
  invalid : ∀ cause, outcome = .error (.invalid cause) ↔ spec.check = .error cause
  silent : ∀ cause, spec.check = .error cause → steps = []
  unresolved : ∀ kind reference cause, outcome = .error (.unresolved kind reference cause) →
    ∀ step ∈ steps, step.call.isPost = false

/-- The outcome of a run tells how far it came, whatever the provider answers and
whenever the run is cancelled. -/
theorem provision_outcome (env : Environment) (polling : Polling) (signal : Signal)
    (spec : MachineSpec) (session : Session) :
    ∃ steps : List Step,
      (provision env polling signal spec session).2.world.history =
        session.world.history ++ steps.map (Step.exchange env) ∧
      InOrder env spec (spec.scope env.project) steps ∧
      Told env spec steps (provision env polling signal spec session).1 := by
  obtain ⟨steps, added, inOrder, ⟨cause, refused, rfl, ends⟩ | ⟨valid, rules, complete, way⟩⟩ :=
    provision_inOrder env polling signal spec session
  · refine ⟨[], added, inOrder, ?_⟩
    rw [ends]
    refine ⟨Ending.plain (fun other failed => ?_) (by simp) (by simp), fun other => ?_,
      fun _ _ => rfl, by simp⟩
    · cases failed
      trivial
    · rw [refused]
      simp
  · obtain ⟨⟨source, given⟩, -⟩ := rules_of_check valid
    refine ⟨steps, added, inOrder, launchCourse_ending given way, fun cause => ?_, ?_, ?_⟩
    · constructor
      · intro failed
        exact (launchCourse_early given way failed trivial).1.elim
      · intro refused
        rw [valid] at refused
        cases refused
    · intro cause refused
      rw [valid] at refused
      cases refused
    · intro kind reference cause failed step member
      exact Stage.not_isPost_of_asks (inOrder.asked step member)
        ((launchCourse_early given way failed trivial).2 step member)

end VmLaunch.Launch
