import VmLaunch.Proofs.Launch.Passage
import VmLaunch.Proofs.Launch.Waiting

/-!
# Inserting a machine and reading it back

`Inserting` follows a run from its insert on, with one constructor for each way on,
and `Reading` the one call that reads the machine back.
-/

namespace VmLaunch.Launch

/-- What is made of the answer to an insert, which must name its operation. -/
def insertJudge (name : String) (answer : Answer) : Except LaunchError Operation :=
  match Operation.judge (.insert name) answer with
  | .error cause => .error cause
  | .ok operation =>
    if operation.name = "" then
      .error (.provider (.insert name) (.of "response carries no operation name"))
    else .ok operation

/-- An insert is accepted by an operation with a name. -/
theorem insertJudge_eq_ok_iff {name : String} {answer : Answer} {operation : Operation} :
    insertJudge name answer = .ok operation ↔
      Operation.ofAnswer? answer = some operation ∧ operation.name ≠ "" := by
  unfold insertJudge
  rw [← @Operation.judge_eq_ok_iff (.insert name)]
  cases Operation.judge (.insert name) answer with
  | error cause => simp
  | ok found =>
    by_cases nameless : found.name = ""
    · simp only [nameless, if_true]
      constructor
      · intro refused
        cases refused
      · rintro ⟨same, named⟩
        cases same
        exact absurd nameless named
    · simp only [nameless, if_false]
      constructor
      · intro same
        cases same
        exact ⟨rfl, nameless⟩
      · exact fun both => both.1

/-- An insert fails with an error of the provider or with a malformed answer. -/
theorem insertJudge_eq_error {name : String} {answer : Answer} {cause : LaunchError}
    (refused : insertJudge name answer = .error cause) :
    (∃ task fault, cause = .provider task fault) ∨ ∃ what, cause = .malformed what := by
  unfold insertJudge at refused
  split at refused
  case h_1 other judged =>
    cases refused
    rcases Operation.judge_eq_error judged with ⟨fault, rfl⟩ | rfl
    · exact .inl ⟨_, fault, rfl⟩
    · exact .inr ⟨_, rfl⟩
  case h_2 operation judged =>
    split at refused
    · cases refused
      exact .inl ⟨_, _, rfl⟩
    · cases refused

/-- The step that inserts a machine. -/
def insertStep (scope : Scope) (request : InsertRequest) (requestId : String) (world : World) :
    Step :=
  ⟨.insert, world, .post (insertPath scope requestId) request.encode⟩

/-- The step that reads a machine back. -/
def fetchStep (scope : Scope) (name : String) (world : World) : Step :=
  ⟨.fetch, world, .get (zoneParent scope.project scope.zone "instances" ++ "/" ++ name)⟩

/-- A machine is read back once. -/
inductive Reading (env : Environment) (scope : Scope) (name : String) :
    List Step → Outcome InstanceSummary → Prop where
  | failed {world fault} (answered : (fetchStep scope name world).answer env = .error fault) :
      Reading env scope name [fetchStep scope name world] (.error (.unreadableInstance name fault))
  | read {world body} (answered : (fetchStep scope name world).answer env = .ok body) :
      Reading env scope name [fetchStep scope name world]
        (.ok (InstanceSummary.project body scope.zone))

/-- A machine is inserted unless the run is cancelled first, waited for unless its
operation is already done, and read back when its operation is done. -/
inductive Inserting (env : Environment) (scope : Scope) (request : InsertRequest) (label : String) :
    List Step → Outcome InstanceSummary → Prop where
  | cancelled : Inserting env scope request label [] (.error (.cancelled (.beforeInsert label)))
  | refused {requestId world cause}
      (judged : insertJudge request.name
        ((insertStep scope request requestId world).answer env) = .error cause) :
      Inserting env scope request label [insertStep scope request requestId world] (.error cause)
  | failed {requestId world operation cause}
      (judged : insertJudge request.name
        ((insertStep scope request requestId world).answer env) = .ok operation)
      (checked : operation.check = .error cause) :
      Inserting env scope request label [insertStep scope request requestId world] (.error cause)
  | done {requestId world operation rest outcome}
      (judged : insertJudge request.name
        ((insertStep scope request requestId world).answer env) = .ok operation)
      (checked : operation.check = .ok .done)
      (after : Reading env scope request.name rest outcome) :
      Inserting env scope request label (insertStep scope request requestId world :: rest) outcome
  | waited {requestId world operation rest outcome}
      (judged : insertJudge request.name
        ((insertStep scope request requestId world).answer env) = .ok operation)
      (checked : operation.check = .ok .pending)
      (after : Course.Then (Waiting env scope operation.name)
        (fun _ => Reading env scope request.name) rest outcome) :
      Inserting env scope request label (insertStep scope request requestId world :: rest) outcome

/-- A machine is inserted by one call under a new id, and what is made of its answer. -/
theorem insert_eq_ask (env : Environment) (scope : Scope) (request : InsertRequest) :
    insert env scope request = (do
      let requestId ← Work.read env.requestId
      Work.ask env (.post (insertPath scope requestId) request.encode)
        (insertJudge request.name)) := by
  funext world
  simp only [insert, Environment.callOr, Work.ask, Environment.call, bind, Work.bind, Work.read]
  cases (env.reply world
    (.post (insertPath scope (env.requestId world)) request.encode)).answer with
  | error fault => rfl
  | ok body =>
    simp only [Pure.pure, Work.pure, insertJudge, Operation.judge]
    cases Operation.decode body with
    | none => rfl
    | some operation =>
      by_cases nameless : operation.name = ""
      · simp [Work.require, Work.pure, nameless, Work.ofExcept]
      · simp [Work.require, Work.pure, nameless, Work.ofExcept]

/-- A machine is read back by one call. -/
theorem fetch_eq_ask (env : Environment) (scope : Scope) (name : String) :
    InstanceSummary.fetch env scope name =
      Work.ask env (.get (zoneParent scope.project scope.zone "instances" ++ "/" ++ name))
        fun answer => answer.mapError (LaunchError.unreadableInstance name) := by
  funext world
  simp only [InstanceSummary.fetch, Environment.callOr, Work.ask, Environment.call, bind,
    Work.bind]
  cases (env.reply world
    (.get (zoneParent scope.project scope.zone "instances" ++ "/" ++ name))).answer <;> rfl

/-- A machine is read back in the world of its step. -/
theorem fetch_treads (env : Environment) (scope : Scope) (name : String) :
    (do
      let body ← InstanceSummary.fetch env scope name
      return InstanceSummary.project body scope.zone : Work World InstanceSummary).Treads env
      (Reading env scope name) := by
  intro world
  have run : InstanceSummary.fetch env scope name world =
      (Outcome.ofExcept (((fetchStep scope name world).answer env).mapError
        (LaunchError.unreadableInstance name)),
        (Moment.asked (fetchStep scope name world)).after env) := by
    rw [fetch_eq_ask]
    exact Work.ask_apply env _ _ world
  rw [Work.map_apply, run]
  refine ⟨[fetchStep scope name world], .single (.asked (fetchStep scope name world)), ?_⟩
  cases answered : (fetchStep scope name world).answer env with
  | ok body => exact .read answered
  | error fault => exact .failed answered

private theorem fetch_follows (env : Environment) (scope : Scope) (name : String) :
    (do
      let body ← InstanceSummary.fetch env scope name
      return InstanceSummary.project body scope.zone : Work World InstanceSummary).Follows
      (Step.exchange env) (Reading env scope name) :=
  (fetch_treads env scope name).follows

/-- A machine is inserted, waited for and read back. -/
theorem insertAndReport_follows (env : Environment) (polling : Polling) (signal : Signal)
    (spec : MachineSpec) (scope : Scope) (request : InsertRequest) :
    (insertAndReport env polling signal spec scope request).Follows (Step.exchange env)
      (Inserting env scope request spec.instanceName) := by
  unfold insertAndReport heedBeforeInsert
  refine heed_bind .cancelled ?_
  rw [insert_eq_ask, Work.bind_assoc]
  refine Work.Follows.read_bind fun requestId => ?_
  refine Work.Follows.ask_bind (insertStep scope request requestId) (fun _ => rfl)
    (fun world cause judged => .refused judged) fun world operation judged => ?_
  unfold settle
  cases checked : operation.check with
  | error cause => exact Work.follows_fail cause (.failed judged checked)
  | ok progress =>
    cases progress with
    | done =>
      exact (fetch_follows env scope request.name).mono fun _ _ after =>
        .done judged checked after
    | pending =>
      have waits : (polling.wait env scope operation.name signal).Follows (Step.exchange env)
          (Waiting env scope operation.name) :=
        Work.Follows.read_bind fun deadline => rounds_follows env polling scope _ signal deadline _
      change ((polling.wait env scope operation.name signal >>= fun _ => Pure.pure ()) >>=
        _).Follows _ _
      rw [Work.bind_assoc]
      exact (waits.bind fun _ => fetch_follows env scope request.name).mono fun _ _ after =>
        .waited judged checked after

variable {env : Environment} {spec : MachineSpec} {scope : Scope}

/-- The step that reads a machine back is the last of a run. -/
theorem Reading.segment {steps : List Step} {outcome : Outcome InstanceSummary}
    (reading : Reading env scope spec.instanceName steps outcome) :
    Segment env (fun stage => stage.Asks spec scope) 7 8 steps outcome := by
  cases reading with
  | failed answered => exact Segment.single rfl (Nat.le_refl 7) (Nat.lt_succ_self 7) (by simp)
  | read answered =>
    exact Segment.single rfl (Nat.le_refl 7) (Nat.lt_succ_self 7) fun _ _ => ⟨_, answered⟩

/-- A machine is read back in one step. -/
theorem Reading.fetches {name : String} {steps : List Step} {outcome : Outcome InstanceSummary}
    (reading : Reading env scope name steps outcome) :
    ∃ world, steps = [fetchStep scope name world] := by
  cases reading with
  | failed => exact ⟨_, rfl⟩
  | read => exact ⟨_, rfl⟩

/-- To read a machine back inserts none. -/
theorem Reading.not_insert {name : String} {steps : List Step}
    {outcome : Outcome InstanceSummary} (reading : Reading env scope name steps outcome) :
    ∀ step ∈ steps, step.stage ≠ .insert := by
  cases reading <;> simp [fetchStep]

/-- A wait and the reading after it. -/
theorem Waiting.then_reading_segment {operation : String} {steps : List Step}
    {outcome : Outcome InstanceSummary}
    (way : Course.Then (Waiting env scope operation)
      (fun _ => Reading env scope spec.instanceName) steps outcome) :
    Segment env (fun stage => stage.Asks spec scope) 6 8 steps outcome :=
  Segment.ofThen way (fun _ _ waiting => waiting.segment) (fun _ _ _ reading => reading.segment)
    (by decide) (by decide)

/-- The polls of a wait and the reading after it are those of the wait. -/
theorem Waiting.then_reading_polls {operation name : String} {steps : List Step}
    {outcome : Outcome InstanceSummary}
    (way : Course.Then (Waiting env scope operation) (fun _ => Reading env scope name) steps
      outcome) :
    ∀ step ∈ steps, step.stage = .poll → ∃ world, step = pollStep scope operation world := by
  intro step member stage
  cases way with
  | passed waiting reading =>
    obtain ⟨world, rfl⟩ := reading.fetches
    rcases List.mem_append.mp member with first | last
    · exact waiting.polls step first
    · cases List.mem_singleton.mp last
      cases stage
  | failed waiting => exact waiting.polls step member
  | unfinished waiting => exact waiting.polls step member

/-- The steps from the insert on are in the order of their stages. -/
theorem Inserting.segment {request : InsertRequest} (named : request.name = spec.instanceName)
    {label : String} {steps : List Step} {outcome : Outcome InstanceSummary}
    (inserting : Inserting env scope request label steps outcome) :
    Segment env (fun stage => stage.Asks spec scope) 5 8 steps outcome := by
  have asked : ∀ requestId world, Stage.insert.Asks spec scope
      (insertStep scope request requestId world).call :=
    fun requestId _ => ⟨requestId, request, named, rfl⟩
  have before : Stage.insert.rank < 7 := by decide
  have below : Stage.insert.rank < 8 := by decide
  cases inserting with
  | cancelled => exact Segment.nil _
  | refused judged => exact Segment.single (asked _ _) (Nat.le_refl 5) below (by simp)
  | failed judged checked => exact Segment.single (asked _ _) (Nat.le_refl 5) below (by simp)
  | done judged checked after =>
    obtain ⟨held, filled⟩ := insertJudge_eq_ok_iff.mp judged
    rw [named] at after
    refine after.segment.cons (asked _ _) ⟨_, _, held, filled, checked⟩ (fun late member => ?_)
      (Nat.le_refl 5) below (by decide)
    exact Stage.precedes_of_rank_lt (Nat.lt_of_lt_of_le before (after.segment.placed late member).1)
  | waited judged checked after =>
    obtain ⟨held, filled⟩ := insertJudge_eq_ok_iff.mp judged
    rw [named] at after
    have onward := Waiting.then_reading_segment after
    refine onward.cons (asked _ _) ⟨_, _, held, filled, checked⟩ (fun late member => ?_)
      (Nat.le_refl 5) below (by decide)
    exact Stage.precedes_of_rank_lt (onward.placed late member).1

/-- Polls follow an insert and ask for the operation that its answer names. -/
theorem Inserting.polled {request : InsertRequest} {label : String} {steps : List Step}
    {outcome : Outcome InstanceSummary}
    (inserting : Inserting env scope request label steps outcome) :
    ∀ step ∈ steps, step.stage = .poll → ∃ insert ∈ steps, insert.stage = .insert ∧
      ∃ operation, Operation.ofAnswer? (insert.answer env) = some operation ∧
        step.call = .get (Operation.path scope operation.name) := by
  cases inserting with
  | cancelled => simp
  | refused => simp [insertStep]
  | failed => simp [insertStep]
  | done judged checked after =>
    obtain ⟨world, rfl⟩ := after.fetches
    simp [insertStep, fetchStep]
  | waited judged checked after =>
    intro step member stage
    obtain ⟨held, -⟩ := insertJudge_eq_ok_iff.mp judged
    refine ⟨_, List.mem_cons_self, rfl, _, held, ?_⟩
    rcases List.mem_cons.mp member with rfl | later
    · cases stage
    · obtain ⟨world, rfl⟩ := Waiting.then_reading_polls after step later stage
      rfl

/-- The insert of a run carries its request. -/
theorem Inserting.insert_call {request : InsertRequest} (named : request.name = spec.instanceName)
    {label : String} {steps : List Step} {outcome : Outcome InstanceSummary}
    (inserting : Inserting env scope request label steps outcome) {insert : Step}
    (member : insert ∈ steps) (stage : insert.stage = .insert) :
    ∃ path, insert.call = .post path request.encode := by
  have early : ∀ {low : Nat}, Stage.insert.rank < low → ¬ low ≤ insert.stage.rank := by
    intro low above below
    rw [stage] at below
    exact absurd above (Nat.not_lt_of_le below)
  cases inserting with
  | cancelled => cases member
  | refused =>
    cases List.mem_singleton.mp member
    exact ⟨_, rfl⟩
  | failed =>
    cases List.mem_singleton.mp member
    exact ⟨_, rfl⟩
  | done judged checked after =>
    rw [named] at after
    rcases List.mem_cons.mp member with rfl | later
    · exact ⟨_, rfl⟩
    · exact absurd (after.segment.placed insert later).1 (early (by decide))
  | waited judged checked after =>
    rw [named] at after
    rcases List.mem_cons.mp member with rfl | later
    · exact ⟨_, rfl⟩
    · exact absurd ((Waiting.then_reading_segment after).placed insert later).1 (early (by decide))

end VmLaunch.Launch
