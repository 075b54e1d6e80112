import VmLaunch.Proofs.Launch.Course

/-!
# Endings

What the outcome of an insert tells about the insert itself, its operation and the
machine. `Ending` collects it, and the steps before the insert do not change it.
-/

namespace VmLaunch

/-- The errors from the check and the lookups, after which nothing exists. -/
def LaunchError.IsEarly : LaunchError → Prop
  | .invalid _ => True
  | .unresolved _ _ _ => True
  | _ => False

/-- The errors of an operation that the provider had accepted. -/
def LaunchError.AboutOperation : LaunchError → Prop
  | .operationFailed _ => True
  | .operationTimeout _ => True
  | .unexpectedStatus _ _ => True
  | _ => False

/-- The errors that may come from the check or from a call at any stage. -/
def LaunchError.IsPlain : LaunchError → Prop
  | .invalid _ => True
  | .unresolved _ _ _ => True
  | .provider _ _ => True
  | .malformed _ => True
  | _ => False

/-- An error about an operation comes neither from the check nor from a call at any stage. -/
theorem LaunchError.not_isPlain_of_aboutOperation {cause : LaunchError}
    (about : cause.AboutOperation) : ¬ cause.IsPlain := by
  cases cause <;> simp_all [AboutOperation, IsPlain]

namespace Launch

variable {env : Environment} {spec : MachineSpec} {scope : Scope}

/-- Exactly one insert was made, and the provider answered it with a named operation. -/
def InsertAccepted (env : Environment) (steps : List Step) : Prop :=
  ∃ insert operation, steps.filter (fun step => step.stage = .insert) = [insert] ∧
    Operation.ofAnswer? (insert.answer env) = some operation ∧ operation.name ≠ ""

/-- Whether a step was answered with the state of the operation. -/
def Step.IsReport (step : Step) : Prop :=
  step.stage = .insert ∨ step.stage = .poll

/-- Some report says that the operation is done without an error. -/
def OperationSucceeded (env : Environment) (steps : List Step) : Prop :=
  ∃ step ∈ steps, step.IsReport ∧ ∃ operation,
    Operation.ofAnswer? (step.answer env) = some operation ∧ operation.Succeeded

/-- Every report so far says that the provider still works on the operation. -/
def OperationPending (env : Environment) (steps : List Step) : Prop :=
  ∀ step ∈ steps, step.IsReport → ∃ operation,
    Operation.ofAnswer? (step.answer env) = some operation ∧ operation.Unfinished

/-- The machine was asked for and could not be read back. -/
def FetchFailed (env : Environment) (steps : List Step) : Prop :=
  ∃ step ∈ steps, step.stage = .fetch ∧ ∃ fault, step.answer env = .error fault

/-- The machine was asked for and read back. -/
def FetchPassed (env : Environment) (steps : List Step) : Prop :=
  ∃ step ∈ steps, step.stage = .fetch ∧ ∃ body, step.answer env = .ok body

/-- What an outcome tells about the insert, the operation and the machine. -/
structure Ending (env : Environment) (steps : List Step) (outcome : Outcome InstanceSummary) :
    Prop where
  decided : ∀ cause, outcome = .error cause → cause.AboutOperation → InsertAccepted env steps
  unreadable : (∃ name fault, outcome = .error (.unreadableInstance name fault)) ↔
    FetchFailed env steps
  read : (∃ summary, outcome = .ok summary) ↔ FetchPassed env steps
  finished : FetchFailed env steps ∨ FetchPassed env steps →
    InsertAccepted env steps ∧ OperationSucceeded env steps
  cancelled : ∀ stopped, outcome = .error (.cancelled stopped) →
    (∀ step ∈ steps, step.stage ≠ .insert) ∨
      InsertAccepted env steps ∧ OperationPending env steps

section Prepending

variable {front steps : List Step}

/-- Where no step inserts, the steps that insert are none. -/
theorem filter_insert_eq_nil (earlier : ∀ step ∈ front, step.stage ≠ .insert) :
    front.filter (fun step => step.stage = .insert) = [] := by
  rw [List.filter_eq_nil_iff]
  exact fun step member => by simpa using earlier step member

/-- An insert that was accepted still is behind earlier steps. -/
theorem InsertAccepted.prepend (earlier : ∀ step ∈ front, step.stage.rank < Stage.insert.rank)
    (accepted : InsertAccepted env steps) : InsertAccepted env (front ++ steps) := by
  obtain ⟨insert, operation, only, rest⟩ := accepted
  refine ⟨insert, operation, ?_, rest⟩
  rw [List.filter_append, only, filter_insert_eq_nil, List.nil_append]
  intro step member stage
  have place := earlier step member
  rw [stage] at place
  exact Nat.lt_irrefl _ place

/-- Whether the machine is read back is not up to the steps before the insert. -/
theorem fetch_mem_append_iff (earlier : ∀ step ∈ front, step.stage.rank < Stage.insert.rank)
    {holds : Step → Prop} :
    (∃ step ∈ front ++ steps, step.stage = .fetch ∧ holds step) ↔
      ∃ step ∈ steps, step.stage = .fetch ∧ holds step := by
  constructor
  · rintro ⟨step, member, stage, rest⟩
    rcases List.mem_append.mp member with first | last
    · have place := earlier step first
      rw [stage] at place
      exact absurd place (by decide)
    · exact ⟨step, last, stage, rest⟩
  · rintro ⟨step, member, rest⟩
    exact ⟨step, List.mem_append_right front member, rest⟩

/-- Lookups and creations before the insert change nothing about what an outcome tells. -/
theorem Ending.prepend (earlier : ∀ step ∈ front, step.stage.rank < Stage.insert.rank)
    {outcome : Outcome InstanceSummary} (ending : Ending env steps outcome) :
    Ending env (front ++ steps) outcome where
  decided cause failed about := (ending.decided cause failed about).prepend earlier
  unreadable := ending.unreadable.trans (fetch_mem_append_iff earlier).symm
  read := ending.read.trans (fetch_mem_append_iff earlier).symm
  finished fetched := by
    have here : FetchFailed env steps ∨ FetchPassed env steps :=
      fetched.imp (fetch_mem_append_iff earlier).mp (fetch_mem_append_iff earlier).mp
    obtain ⟨accepted, step, member, succeeded⟩ := ending.finished here
    exact ⟨accepted.prepend earlier, step, List.mem_append_right front member, succeeded⟩
  cancelled stopped failed := by
    have outside : ∀ step ∈ front, ¬ step.IsReport := by
      rintro step member (stage | stage) <;>
      · have place := earlier step member
        rw [stage] at place
        exact absurd place (by decide)
    rcases ending.cancelled stopped failed with none | ⟨accepted, pending⟩
    · refine .inl fun step member => ?_
      rcases List.mem_append.mp member with first | last
      · exact fun stage => outside step first (.inl stage)
      · exact none step last
    · refine .inr ⟨accepted.prepend earlier, fun step member report => ?_⟩
      rcases List.mem_append.mp member with first | last
      · exact absurd report (outside step first)
      · exact pending step last report

end Prepending

/-- A run that ends before the machine is asked for has only to answer for its insert. -/
theorem Ending.unread {steps : List Step} {outcome : Outcome InstanceSummary}
    (unread : ∀ step ∈ steps, step.stage ≠ .fetch) (fails : ∀ summary, outcome ≠ .ok summary)
    (asked : ∀ name fault, outcome ≠ .error (.unreadableInstance name fault))
    (decided : ∀ cause, outcome = .error cause → cause.AboutOperation → InsertAccepted env steps)
    (cancelled : ∀ stopped, outcome = .error (.cancelled stopped) →
      (∀ step ∈ steps, step.stage ≠ .insert) ∨
        InsertAccepted env steps ∧ OperationPending env steps) :
    Ending env steps outcome where
  decided := decided
  unreadable := by
    refine ⟨?_, fun ⟨step, member, stage, _⟩ => absurd stage (unread step member)⟩
    rintro ⟨name, fault, failed⟩
    exact absurd failed (asked name fault)
  read := by
    refine ⟨?_, fun ⟨step, member, stage, _⟩ => absurd stage (unread step member)⟩
    rintro ⟨summary, passed⟩
    exact absurd passed (fails summary)
  finished fetched := by
    rcases fetched with ⟨step, member, stage, _⟩ | ⟨step, member, stage, _⟩
    · exact absurd stage (unread step member)
    · exact absurd stage (unread step member)
  cancelled := cancelled

/-- A run that ends before the machine is asked for, and for no reason of its operation. -/
theorem Ending.plain {steps : List Step} {outcome : Outcome InstanceSummary}
    (plain : ∀ cause, outcome = .error cause → cause.IsPlain)
    (fails : ∀ summary, outcome ≠ .ok summary)
    (unread : ∀ step ∈ steps, step.stage ≠ .fetch) : Ending env steps outcome := by
  refine Ending.unread unread fails (fun name fault failed => (plain _ failed).elim)
    (fun cause failed about => ?_) fun stopped failed => (plain _ failed).elim
  exact absurd (plain cause failed) (LaunchError.not_isPlain_of_aboutOperation about)

/-- An insert whose answer names an operation is accepted once. -/
theorem insertAccepted_cons {name : String} {insert : Step} {operation : Operation}
    {rest : List Step} (stage : insert.stage = .insert)
    (judged : insertJudge name (insert.answer env) = .ok operation)
    (later : ∀ step ∈ rest, step.stage ≠ .insert) : InsertAccepted env (insert :: rest) := by
  obtain ⟨held, filled⟩ := insertJudge_eq_ok_iff.mp judged
  refine ⟨insert, operation, ?_, held, filled⟩
  rw [List.filter_cons_of_pos (by simpa using stage), filter_insert_eq_nil later]

/-- A run that stops after an accepted insert, before the machine is asked for. -/
theorem Ending.stopped {steps : List Step} {outcome : Outcome InstanceSummary}
    (accepted : InsertAccepted env steps) (unread : ∀ step ∈ steps, step.stage ≠ .fetch)
    (fails : ∀ summary, outcome ≠ .ok summary)
    (asked : ∀ name fault, outcome ≠ .error (.unreadableInstance name fault))
    (pending : ∀ stopped, outcome = .error (.cancelled stopped) → OperationPending env steps) :
    Ending env steps outcome :=
  Ending.unread unread fails asked (fun _ _ _ => accepted) fun stopped failed =>
    .inr ⟨accepted, pending stopped failed⟩

/-- A run that reads the machine back after its operation succeeded. -/
theorem Ending.reading {name : String} {front rest : List Step}
    {outcome : Outcome InstanceSummary} (accepted : InsertAccepted env (front ++ rest))
    (succeeded : OperationSucceeded env front) (unread : ∀ step ∈ front, step.stage ≠ .fetch)
    (reading : Reading env scope name rest outcome) : Ending env (front ++ rest) outcome := by
  have finished : InsertAccepted env (front ++ rest) ∧ OperationSucceeded env (front ++ rest) := by
    obtain ⟨step, member, succeeded⟩ := succeeded
    exact ⟨accepted, step, List.mem_append_left rest member, succeeded⟩
  have last : ∀ {holds : Step → Prop} {step : Step}, step.stage = .fetch →
      ((∃ other ∈ front ++ [step], other.stage = .fetch ∧ holds other) ↔ holds step) := by
    intro holds step stage
    constructor
    · rintro ⟨other, member, fetch, fact⟩
      rcases List.mem_append.mp member with first | final
      · exact absurd fetch (unread other first)
      · rwa [← List.mem_singleton.mp final]
    · exact fun fact => ⟨step, by simp, stage, fact⟩
  cases reading with
  | failed answered =>
    refine ⟨fun cause failed about => ?_, ?_, ?_, fun _ => finished,
      fun stopped failed => by cases failed⟩
    · cases failed
      exact about.elim
    · exact ⟨fun _ => (last rfl).mpr ⟨_, answered⟩, fun _ => ⟨_, _, rfl⟩⟩
    · refine ⟨fun ⟨summary, passed⟩ => (nomatch passed), fun passed => ?_⟩
      obtain ⟨body, other⟩ := (last rfl).mp passed
      rw [answered] at other
      cases other
  | read answered =>
    refine ⟨fun cause failed => (nomatch failed), ?_, ?_, fun _ => finished,
      fun stopped failed => (nomatch failed)⟩
    · refine ⟨fun ⟨name, fault, failed⟩ => (nomatch failed), fun failed => ?_⟩
      obtain ⟨fault, other⟩ := (last rfl).mp failed
      rw [answered] at other
      cases other
    · exact ⟨fun _ => (last rfl).mpr ⟨_, answered⟩, fun _ => ⟨_, rfl⟩⟩

end Launch

end VmLaunch
