import VmLaunch.Proofs.Launch.Segment

/-!
# Waiting for an operation

`Waiting` follows the polls of an operation, with one constructor for each way on.
-/

namespace VmLaunch

namespace Operation

/-- What is made of an answer that should be an operation. -/
def judge (task : Task) : Answer → Except LaunchError Operation
  | .error fault => .error (.provider task fault)
  | .ok body =>
    match Operation.decode body with
    | none => .error (.malformed .operation)
    | some operation => .ok operation

/-- An answer is taken for an operation when it holds one. -/
theorem judge_eq_ok_iff {task : Task} {answer : Answer} {operation : Operation} :
    judge task answer = .ok operation ↔ ofAnswer? answer = some operation := by
  cases answer with
  | error fault => simp [judge, ofAnswer?]
  | ok body =>
    cases decoded : decode body <;> simp [judge, ofAnswer?, decoded]

/-- An answer that holds no operation is an error of the provider or malformed. -/
theorem judge_eq_error {task : Task} {answer : Answer} {cause : LaunchError}
    (refused : judge task answer = .error cause) :
    (∃ fault, cause = .provider task fault) ∨ cause = .malformed .operation := by
  cases answer with
  | error fault =>
    cases refused
    exact .inl ⟨fault, rfl⟩
  | ok body =>
    cases decoded : decode body with
    | none =>
      simp only [judge, decoded] at refused
      cases refused
      exact .inr rfl
    | some operation => simp [judge, decoded] at refused

/-- The operation is done and carries no error. -/
def Succeeded (operation : Operation) : Prop :=
  operation.status = "DONE" ∧ operation.errors.getD [] = []

/-- The provider still works on the operation. -/
def Unfinished (operation : Operation) : Prop :=
  operation.status = "PENDING" ∨ operation.status = "RUNNING"

/-- An operation is done when it has succeeded. -/
theorem check_eq_done_iff {operation : Operation} :
    operation.check = .ok .done ↔ operation.Succeeded := by
  unfold check Succeeded firstError?
  by_cases finished : operation.status = "DONE"
  · cases operation.errors.getD [] <;> simp [finished]
  · by_cases working : operation.status = "PENDING" ∨ operation.status = "RUNNING" <;>
      simp [finished, working]

/-- An operation is pending when it is unfinished. -/
theorem check_eq_pending_iff {operation : Operation} :
    operation.check = .ok .pending ↔ operation.Unfinished := by
  unfold check Unfinished firstError?
  by_cases finished : operation.status = "DONE"
  · cases operation.errors.getD [] <;> simp [finished]
  · by_cases working : operation.status = "PENDING" ∨ operation.status = "RUNNING" <;>
      simp [finished, working]

/-- An operation is refused for its first error or for an unknown status. -/
theorem check_eq_error {operation : Operation} {cause : LaunchError}
    (refused : operation.check = .error cause) :
    (∃ reason, cause = .operationFailed reason) ∨
      ∃ name status, cause = .unexpectedStatus name status := by
  unfold check at refused
  split at refused
  · split at refused
    · cases refused
      exact .inl ⟨_, rfl⟩
    · cases refused
  · split at refused
    · cases refused
    · cases refused
      exact .inr ⟨_, _, rfl⟩

end Operation

namespace Launch

/-- The step that asks for an operation. -/
def pollStep (scope : Scope) (operation : String) (world : World) : Step :=
  ⟨.poll, world, .get (Operation.path scope operation)⟩

/-- An operation is asked for as long as it is pending. Between polls the wait may be
cancelled, run out of time or outlast its observer. -/
inductive Waiting (env : Environment) (scope : Scope) (operation : String) :
    List Step → Outcome Operation → Prop where
  | cancelled : Waiting env scope operation [] (.error (.cancelled (.waiting operation)))
  | expired : Waiting env scope operation [] (.error (.operationTimeout operation))
  | unfinished : Waiting env scope operation [] .unfinished
  | refused {world cause}
      (judged : Operation.judge (.poll operation)
        ((pollStep scope operation world).answer env) = .error cause) :
      Waiting env scope operation [pollStep scope operation world] (.error cause)
  | failed {world current cause}
      (judged : Operation.judge (.poll operation)
        ((pollStep scope operation world).answer env) = .ok current)
      (checked : current.check = .error cause) :
      Waiting env scope operation [pollStep scope operation world] (.error cause)
  | done {world current}
      (judged : Operation.judge (.poll operation)
        ((pollStep scope operation world).answer env) = .ok current)
      (checked : current.check = .ok .done) :
      Waiting env scope operation [pollStep scope operation world] (.ok current)
  | pending {world current steps outcome}
      (judged : Operation.judge (.poll operation)
        ((pollStep scope operation world).answer env) = .ok current)
      (checked : current.check = .ok .pending)
      (after : Waiting env scope operation steps outcome) :
      Waiting env scope operation (pollStep scope operation world :: steps) outcome

/-- An operation is asked for by one call. -/
theorem poll_eq_ask (env : Environment) (scope : Scope) (operation : String) :
    Polling.poll env scope operation =
      Work.ask env (.get (Operation.path scope operation)) (Operation.judge (.poll operation)) := by
  funext world
  simp only [Polling.poll, Environment.callOr, Work.ask, Environment.call, bind, Work.bind]
  cases (env.reply world (.get (Operation.path scope operation))).answer with
  | error fault => rfl
  | ok body =>
    simp only [Pure.pure, Work.pure, Operation.judge]
    cases Operation.decode body <;> rfl

/-- A signal that is looked at ends the work or changes nothing. -/
theorem heed_bind {ε α : Type} {view : ε → Exchange} {signal : Signal}
    {cause : LaunchError} {next : Unit → Work World α} {course : Course ε α}
    (cancelled : course [] (.error cause)) (after : (next ()).Follows view course) :
    ((do if ← Work.read signal.fired then Work.fail cause else return ()) >>= next).Follows
      view course := by
  intro world
  by_cases fired : signal.fired world
  · have run : (do if ← Work.read signal.fired then Work.fail cause else return () :
        Work World Unit) world = (.error cause, world) := by
      simp [bind, Work.bind, Work.read, fired, Work.fail]
    rw [Work.bind_of_error run]
    exact ⟨[], by simp, cancelled⟩
  · have run : (do if ← Work.read signal.fired then Work.fail cause else return () :
        Work World Unit) world = (.ok (), world) := by
      simp [bind, Work.bind, Work.read, fired, Pure.pure, Work.pure]
    rw [Work.bind_of_ok run]
    exact after world

/-- Rounds of waiting ask for the operation as long as it is pending. -/
theorem rounds_follows (env : Environment) (polling : Polling) (scope : Scope)
    (operation : String) (signal : Signal) (deadline patience : Nat) :
    (Polling.rounds env polling scope operation signal deadline patience).Follows
      (Step.exchange env) (Waiting env scope operation) := by
  induction patience with
  | zero => exact Work.follows_unfinished .unfinished
  | succ patience inductionHypothesis =>
    unfold Polling.rounds
    refine heed_bind .cancelled ?_
    refine Work.Follows.silent_bind (fun world => ⟨(), _, rfl, rfl⟩) fun _ => ?_
    refine heed_bind .cancelled ?_
    refine Work.Follows.read_bind fun now => ?_
    by_cases late : deadline < now
    · simp only [late, if_true]
      exact Work.follows_fail _ .expired
    · simp only [late, if_false]
      rw [poll_eq_ask]
      refine Work.Follows.ask_bind (pollStep scope operation) (fun _ => rfl)
        (fun world cause judged => .refused judged) fun world current judged => ?_
      cases checked : current.check with
      | error cause => exact Work.follows_fail cause (.failed judged checked)
      | ok progress =>
        cases progress with
        | done => exact Work.follows_pure current (.done judged checked)
        | pending => exact inductionHypothesis.mono fun _ _ after => .pending judged checked after

variable {env : Environment} {spec : MachineSpec} {scope : Scope}

/-- A wait makes polls only. -/
theorem Waiting.polls {operation : String} {steps : List Step} {outcome : Outcome Operation}
    (waiting : Waiting env scope operation steps outcome) :
    ∀ step ∈ steps, ∃ world, step = pollStep scope operation world := by
  induction waiting with
  | cancelled => simp
  | expired => simp
  | unfinished => simp
  | refused => exact List.forall_mem_singleton.mpr ⟨_, rfl⟩
  | failed => exact List.forall_mem_singleton.mpr ⟨_, rfl⟩
  | done => exact List.forall_mem_singleton.mpr ⟨_, rfl⟩
  | pending _ _ _ inductionHypothesis =>
    exact List.forall_mem_cons.mpr ⟨⟨_, rfl⟩, inductionHypothesis⟩

/-- The polls of a run stand between its insert and the step that reads the machine back. -/
theorem Waiting.segment {operation : String} {steps : List Step} {outcome : Outcome Operation}
    (waiting : Waiting env scope operation steps outcome) :
    Segment env (fun stage => stage.Asks spec scope) 6 7 steps outcome := by
  have asked : ∀ world, Stage.poll.Asks spec scope (pollStep scope operation world).call :=
    fun _ => ⟨operation, rfl⟩
  induction waiting with
  | cancelled => exact Segment.nil _
  | expired => exact Segment.nil _
  | unfinished => exact Segment.nil _
  | refused => exact Segment.single (asked _) (Nat.le_refl 6) (Nat.lt_succ_self 6) (by simp)
  | failed => exact Segment.single (asked _) (Nat.le_refl 6) (Nat.lt_succ_self 6) (by simp)
  | done judged checked =>
    exact Segment.single (asked _) (Nat.le_refl 6) (Nat.lt_succ_self 6) fun _ _ =>
      ⟨_, _, Operation.judge_eq_ok_iff.mp judged, checked⟩
  | pending judged checked after inductionHypothesis =>
    refine Segment.cons (asked _) ⟨_, _, Operation.judge_eq_ok_iff.mp judged, checked⟩
      inductionHypothesis (fun late member => ?_) (Nat.le_refl 6) (Nat.lt_succ_self 6)
      (Nat.le_refl 6)
    obtain ⟨world, rfl⟩ := after.polls late member
    trivial

end Launch

end VmLaunch
