import VmLaunch.Proofs.Launch.Insertion

/-!
# Heeding the signal

A run that shares the signal of its world heeds it before the insert, before every sleep between
polls and after it. `Heeds` says what this makes of the moments of a run: the insert, the polls and
the sleeps begin only while the signal has not fired, and the one that is under way when it fires
still counts. `Watching` follows a wait through its worlds, with one constructor for each way on.
-/

namespace VmLaunch.Launch

/-- A wait that heeds a signal which has fired is cancelled. -/
theorem heed_of_fired {world : World} (fired : world.cancelled = true) (operation : String) :
    Polling.heed .shared operation world = (.error (.cancelled (.waiting operation)), world) := by
  simp [Polling.heed, bind, Work.bind, Work.read, Signal.fired, fired, Work.fail]

/-- A wait that heeds a signal which has not fired goes on. -/
theorem heed_of_calm {world : World} (calm : world.cancelled = false) (operation : String) :
    Polling.heed .shared operation world = (.ok (), world) := by
  simp [Polling.heed, bind, Work.bind, Work.read, Signal.fired, calm, Pure.pure, Work.pure]

/-- A run whose signal has fired is cancelled before its insert. -/
theorem heedBeforeInsert_of_fired {world : World} (fired : world.cancelled = true)
    (spec : MachineSpec) :
    heedBeforeInsert .shared spec world =
      (.error (.cancelled (.beforeInsert spec.instanceName)), world) := by
  simp [heedBeforeInsert, bind, Work.bind, Work.read, Signal.fired, fired, Work.fail]

/-- A run whose signal has not fired goes on to its insert. -/
theorem heedBeforeInsert_of_calm {world : World} (calm : world.cancelled = false)
    (spec : MachineSpec) : heedBeforeInsert .shared spec world = (.ok (), world) := by
  simp [heedBeforeInsert, bind, Work.bind, Work.read, Signal.fired, calm, Pure.pure, Work.pure]

/-- What the answer to an insert comes to: a failure, or the operation to wait for and how far the
provider is with it. -/
def insertVerdict (name : String) (answer : Answer) : Except LaunchError (String × Progress) := do
  let operation ← insertJudge name answer
  let progress ← operation.check
  return (operation.name, progress)

/-- What the answer to a poll comes to. -/
def pollVerdict (operation : String) (answer : Answer) :
    Except LaunchError (String × Progress) := do
  let current ← Operation.judge (.poll operation) answer
  let progress ← current.check
  return (operation, progress)

/-- What comes of an insert or a poll that was made. -/
inductive Decides (env : Environment) (scope : Scope) (name : String) :
    Step → Except LaunchError (String × Progress) → Prop where
  | insert {request requestId world verdict} (named : request.name = name)
      (decided : insertVerdict name ((insertStep scope request requestId world).answer env) =
        verdict) : Decides env scope name (insertStep scope request requestId world) verdict
  | poll {operation world verdict}
      (decided : pollVerdict operation ((pollStep scope operation world).answer env) = verdict) :
      Decides env scope name (pollStep scope operation world) verdict

/-- Whether a moment is one before which a run heeds its signal: the insert, a poll or a sleep. -/
def Moment.Heedful : Moment → Prop
  | .asked step => step.stage = .insert ∨ step.stage = .poll
  | .slept _ _ => True

/-- What follows a moment during which the signal fires, and how the run ends. A sleep was the last
moment of a cancelled run. An answer counts: a failure is the outcome, an operation that is done
lets the machine be read back, and one that is pending is not waited for. An observer without
patience does not see that the run is cancelled. -/
inductive Honours (env : Environment) (scope : Scope) (name : String) :
    Moment → List Moment → Outcome InstanceSummary → Prop where
  | woken {world d operation} :
      Honours env scope name (.slept world d) [] (.error (.cancelled (.waiting operation)))
  | failed {step cause} (decides : Decides env scope name step (.error cause)) :
      Honours env scope name (.asked step) [] (.error cause)
  | done {step operation rest outcome}
      (decides : Decides env scope name step (.ok (operation, .done)))
      (reading : Reading env scope name rest outcome) :
      Honours env scope name (.asked step) (rest.map .asked) outcome
  | pending {step operation}
      (decides : Decides env scope name step (.ok (operation, .pending))) :
      Honours env scope name (.asked step) [] (.error (.cancelled (.waiting operation)))
  | unseen {step operation}
      (decides : Decides env scope name step (.ok (operation, .pending))) :
      Honours env scope name (.asked step) [] .unfinished

/-- What heeding the signal makes of the moments of a run. -/
structure Heeds (env : Environment) (scope : Scope) (name : String) (moments : List Moment)
    (outcome : Outcome InstanceSummary) : Prop where
  calm : ∀ moment ∈ moments, moment.Heedful → moment.world.cancelled = false
  honours : ∀ moment later, moment :: later <:+ moments → moment.Heedful →
    (moment.after env).cancelled = true → Honours env scope name moment later outcome

namespace Heeds

variable {env : Environment} {scope : Scope} {name : String} {moment : Moment}
  {moments : List Moment} {outcome : Outcome InstanceSummary}

/-- Where nothing happens every signal is heeded. -/
theorem nil : Heeds env scope name [] outcome where
  calm := by simp
  honours moment later suffix := by simp at suffix

/-- One more moment in front heeds the signal, when it begins calm and what follows honours the
signal if it has fired by then. -/
theorem cons (calm : moment.Heedful → moment.world.cancelled = false)
    (honours : moment.Heedful → (moment.after env).cancelled = true →
      Honours env scope name moment moments outcome)
    (rest : Heeds env scope name moments outcome) :
    Heeds env scope name (moment :: moments) outcome where
  calm := List.forall_mem_cons.mpr ⟨calm, rest.calm⟩
  honours other later suffix := by
    rcases List.suffix_cons_iff.mp suffix with same | within
    · cases same
      exact honours
    · exact rest.honours other later within

/-- Moments before which no signal is heeded do not matter. -/
theorem prepend {early : List Moment} (heedless : ∀ moment ∈ early, ¬ moment.Heedful)
    (rest : Heeds env scope name moments outcome) :
    Heeds env scope name (early ++ moments) outcome := by
  induction early with
  | nil => exact rest
  | cons moment others inductionHypothesis =>
    obtain ⟨first, later⟩ := List.forall_mem_cons.mp heedless
    exact (inductionHypothesis later).cons (fun heedful => absurd heedful first)
      fun heedful => absurd heedful first

end Heeds

/-- To read a machine back needs no signal. -/
theorem Reading.heeds {env : Environment} {scope : Scope} {name : String} {steps : List Step}
    {outcome final : Outcome InstanceSummary} (reading : Reading env scope name steps outcome) :
    Heeds env scope name (steps.map .asked) final := by
  obtain ⟨world, rfl⟩ := reading.fetches
  have heedless : ¬ (Moment.asked (fetchStep scope name world)).Heedful := by
    simp [Moment.Heedful, fetchStep]
  exact .cons (fun heedful => absurd heedful heedless) (fun heedful => absurd heedful heedless) .nil

/-- To read a machine back ends. -/
theorem Reading.ne_unfinished {env : Environment} {scope : Scope} {name : String}
    {steps : List Step} {outcome : Outcome InstanceSummary}
    (reading : Reading env scope name steps outcome) : outcome ≠ .unfinished := by
  cases reading <;> simp

/-- The number of polls among moments. -/
def pollCount (moments : List Moment) : Nat :=
  (moments.filterMap Moment.step?).countP (·.stage = .poll)

/-- Whether a run from one world to another takes a course through moments that heed the signal.
If the observer does not see it end, it has made all the polls that there was patience for. -/
def HeedfulRun (env : Environment) (scope : Scope) (name : String)
    (course : Course Step InstanceSummary) (world : World) (outcome : Outcome InstanceSummary)
    (later : World) : Prop :=
  ∃ moments, Passage env world moments later ∧ course (moments.filterMap Moment.step?) outcome ∧
    Heeds env scope name moments outcome ∧
    (outcome = .unfinished → pollCount moments = env.patience)

section Watching

variable (env : Environment) (polling : Polling) (scope : Scope) (operation name : String)

/-- The sleep of a round that begins in a world. -/
def restOf (world : World) : Moment :=
  .slept world polling.interval

/-- The poll of a round that begins in a world. -/
def pollOf (world : World) : Step :=
  pollStep scope operation ((restOf polling world).after env)

/-- Whether the signal lets a round that begins in a world come to its poll. -/
def Undisturbed (world : World) : Prop :=
  world.cancelled = false ∧ ((restOf polling world).after env).cancelled = false

/-- What is left of a run that waits for an operation, in a world and with patience for a number of
rounds. -/
inductive Watching : Nat → World → List Moment → Outcome InstanceSummary → Prop where
  | unseen {world} : Watching 0 world [] .unfinished
  | stopped {patience world} (fired : world.cancelled = true) :
      Watching (patience + 1) world [] (.error (.cancelled (.waiting operation)))
  | woken {patience world} (calm : world.cancelled = false)
      (fired : ((restOf polling world).after env).cancelled = true) :
      Watching (patience + 1) world [restOf polling world]
        (.error (.cancelled (.waiting operation)))
  | expired {patience world} (undisturbed : Undisturbed env polling world) :
      Watching (patience + 1) world [restOf polling world] (.error (.operationTimeout operation))
  | failed {patience world cause} (undisturbed : Undisturbed env polling world)
      (decided : pollVerdict operation ((pollOf env polling scope operation world).answer env) =
        .error cause) :
      Watching (patience + 1) world
        [restOf polling world, .asked (pollOf env polling scope operation world)] (.error cause)
  | done {patience world rest outcome} (undisturbed : Undisturbed env polling world)
      (decided : pollVerdict operation ((pollOf env polling scope operation world).answer env) =
        .ok (operation, .done))
      (reading : Reading env scope name rest outcome) :
      Watching (patience + 1) world
        (restOf polling world :: .asked (pollOf env polling scope operation world) ::
          rest.map .asked) outcome
  | pending {patience world moments outcome} (undisturbed : Undisturbed env polling world)
      (decided : pollVerdict operation ((pollOf env polling scope operation world).answer env) =
        .ok (operation, .pending))
      (after : Watching patience
        ((Moment.asked (pollOf env polling scope operation world)).after env) moments outcome) :
      Watching (patience + 1) world
        (restOf polling world :: .asked (pollOf env polling scope operation world) :: moments)
        outcome

/-- Wait for an operation, read the machine back and report it. -/
def watch (deadline patience : Nat) : Work World InstanceSummary := do
  let _ ← Polling.rounds env polling scope operation .shared deadline patience
  let body ← InstanceSummary.fetch env scope name
  return InstanceSummary.project body scope.zone

variable {env polling scope operation name} {world : World} {moments : List Moment}
  {outcome : Outcome InstanceSummary} {patience : Nat}

section Round

variable (scope operation) (deadline patience : Nat)

private theorem rounds_stopped (fired : world.cancelled = true) :
    Polling.rounds env polling scope operation .shared deadline (patience + 1) world =
      (.error (.cancelled (.waiting operation)), world) :=
  Work.bind_of_error (heed_of_fired fired operation)

private theorem rounds_woken (calm : world.cancelled = false)
    (fired : ((restOf polling world).after env).cancelled = true) :
    Polling.rounds env polling scope operation .shared deadline (patience + 1) world =
      (.error (.cancelled (.waiting operation)), (restOf polling world).after env) := by
  have slept : env.sleep polling.interval world = (.ok (), (restOf polling world).after env) := rfl
  rw [Polling.rounds, Work.bind_of_ok (heed_of_calm calm _), Work.bind_of_ok slept]
  exact Work.bind_of_error (heed_of_fired fired operation)

/-- What a round does that comes to its poll. -/
private theorem rounds_undisturbed (undisturbed : Undisturbed env polling world) :
    Polling.rounds env polling scope operation .shared deadline (patience + 1) world =
      (if deadline < ((restOf polling world).after env).now then
        Work.fail (.operationTimeout operation)
      else do
        let current ← Work.ask env (pollOf env polling scope operation world).call
          (Operation.judge (.poll operation))
        match ← Work.ofExcept current.check with
        | .done => return current
        | .pending => Polling.rounds env polling scope operation .shared deadline patience)
        ((restOf polling world).after env) := by
  obtain ⟨calm, still⟩ := undisturbed
  have slept : env.sleep polling.interval world = (.ok (), (restOf polling world).after env) := rfl
  rw [Polling.rounds, Work.bind_of_ok (heed_of_calm calm _), Work.bind_of_ok slept,
    Work.bind_of_ok (heed_of_calm still _), poll_eq_ask]
  rfl

/-- A poll ends the wait by its failure or with its operation, or leads to the next round. -/
private theorem rounds_polled (undisturbed : Undisturbed env polling world)
    (early : ¬ deadline < ((restOf polling world).after env).now) :
    let poll := pollOf env polling scope operation world
    let rounds := Polling.rounds env polling scope operation .shared deadline
    (∃ cause, pollVerdict operation (poll.answer env) = .error cause ∧
      rounds (patience + 1) world = (.error cause, (Moment.asked poll).after env)) ∨
    (∃ current, pollVerdict operation (poll.answer env) = .ok (operation, .done) ∧
      rounds (patience + 1) world = (.ok current, (Moment.asked poll).after env)) ∨
    (pollVerdict operation (poll.answer env) = .ok (operation, .pending) ∧
      rounds (patience + 1) world = rounds patience ((Moment.asked poll).after env)) := by
  intro poll rounds
  have round := rounds_undisturbed scope operation deadline patience undisturbed
  have asked : Work.ask env poll.call (Operation.judge (.poll operation))
      ((restOf polling world).after env) =
      (Outcome.ofExcept (Operation.judge (.poll operation) (poll.answer env)),
        (Moment.asked poll).after env) := Work.ask_apply _ _ _ _
  rw [if_neg early] at round
  cases judged : Operation.judge (.poll operation) (poll.answer env) with
  | error cause =>
    rw [judged] at asked
    refine .inl ⟨cause, ?_, round.trans (Work.bind_of_error asked)⟩
    rw [pollVerdict, judged]
    rfl
  | ok current =>
    rw [judged] at asked
    rw [Work.bind_of_ok asked] at round
    have verdict : pollVerdict operation (poll.answer env) =
        current.check.map fun progress => (operation, progress) := by
      rw [pollVerdict, judged]
      rfl
    cases checked : current.check with
    | error cause =>
      rw [checked] at round verdict
      exact .inl ⟨cause, verdict, round⟩
    | ok progress =>
      rw [checked] at round verdict
      cases progress with
      | done => exact .inr (.inl ⟨current, verdict, round⟩)
      | pending => exact .inr (.inr ⟨verdict, round⟩)

end Round

/-- A wait passes through the worlds of its rounds. -/
theorem watch_watching (env : Environment) (polling : Polling) (scope : Scope)
    (operation name : String) (deadline patience : Nat) (world : World) :
    ∃ moments,
      Passage env world moments (watch env polling scope operation name deadline patience world).2 ∧
      Watching env polling scope operation name patience world moments
        (watch env polling scope operation name deadline patience world).1 := by
  induction patience generalizing world with
  | zero => exact ⟨[], .nil, .unseen⟩
  | succ patience inductionHypothesis =>
    cases fired : world.cancelled with
    | true =>
      rw [watch, Work.bind_of_error (rounds_stopped scope operation deadline patience fired)]
      exact ⟨[], .nil, .stopped fired⟩
    | false =>
    cases woken : ((restOf polling world).after env).cancelled with
    | true =>
      rw [watch, Work.bind_of_error (rounds_woken scope operation deadline patience fired woken)]
      exact ⟨_, .single (restOf polling world), .woken fired woken⟩
    | false =>
    have undisturbed : Undisturbed env polling world := ⟨fired, woken⟩
    by_cases late : deadline < ((restOf polling world).after env).now
    · have round := rounds_undisturbed scope operation deadline patience undisturbed
      rw [if_pos late] at round
      rw [watch, Work.bind_of_error round]
      exact ⟨_, .single (restOf polling world), .expired undisturbed⟩
    · have asked {moments : List Moment} {final : World} (rest : Passage env
          ((Moment.asked (pollOf env polling scope operation world)).after env) moments final) :
          Passage env world
            (restOf polling world :: .asked (pollOf env polling scope operation world) :: moments)
            final :=
        @Passage.cons env (restOf polling world) _ _ (.cons rest)
      rcases rounds_polled scope operation deadline patience undisturbed late with
        ⟨cause, decided, round⟩ | ⟨current, decided, round⟩ | ⟨decided, round⟩
      · rw [watch, Work.bind_of_error round]
        exact ⟨_, asked .nil, .failed undisturbed decided⟩
      · rw [watch, Work.bind_of_ok round]
        obtain ⟨steps, reading, way⟩ := fetch_treads env scope name _
        exact ⟨_, asked reading, .done undisturbed decided way⟩
      · have onward : watch env polling scope operation name deadline (patience + 1) world =
            watch env polling scope operation name deadline patience
              ((Moment.asked (pollOf env polling scope operation world)).after env) :=
          Work.bind_congr_at round
        obtain ⟨moments, passage, watching⟩ := inductionHypothesis
          ((Moment.asked (pollOf env polling scope operation world)).after env)
        rw [onward]
        exact ⟨_, asked passage, .pending undisturbed decided watching⟩

/-- Nothing is done in a wait whose signal has fired. -/
theorem Watching.of_fired
    (watching : Watching env polling scope operation name patience world moments outcome)
    (fired : world.cancelled = true) : moments = [] ∧
      (outcome = .error (.cancelled (.waiting operation)) ∨ outcome = .unfinished) := by
  cases watching with
  | unseen => exact ⟨rfl, .inr rfl⟩
  | stopped => exact ⟨rfl, .inl rfl⟩
  | woken calm => simp [calm] at fired
  | expired undisturbed => simp [undisturbed.1] at fired
  | failed undisturbed => simp [undisturbed.1] at fired
  | done undisturbed => simp [undisturbed.1] at fired
  | pending undisturbed => simp [undisturbed.1] at fired

/-- A sleep and a poll that the signal did not keep from being made, and what comes after them. -/
private theorem Undisturbed.heeds (undisturbed : Undisturbed env polling world)
    (honours : ((Moment.asked (pollOf env polling scope operation world)).after env).cancelled =
      true → Honours env scope name (.asked (pollOf env polling scope operation world)) moments
        outcome)
    (rest : Heeds env scope name moments outcome) :
    Heeds env scope name
      (restOf polling world :: .asked (pollOf env polling scope operation world) :: moments)
      outcome := by
  obtain ⟨calm, still⟩ := undisturbed
  refine Heeds.cons (fun _ => calm) (fun _ fired => ?_) (Heeds.cons (fun _ => still)
    (fun _ => honours) rest)
  rw [still] at fired
  cases fired

/-- A wait heeds its signal. -/
theorem Watching.heeds
    (watching : Watching env polling scope operation name patience world moments outcome) :
    Heeds env scope name moments outcome := by
  induction watching with
  | unseen => exact .nil
  | stopped fired => exact .nil
  | woken calm fired => exact .cons (fun _ => calm) (fun _ _ => .woken) .nil
  | expired undisturbed =>
    refine .cons (fun _ => undisturbed.1) (fun _ fired => ?_) .nil
    rw [undisturbed.2] at fired
    cases fired
  | failed undisturbed decided =>
    exact undisturbed.heeds (fun _ => .failed (.poll decided)) .nil
  | done undisturbed decided reading =>
    exact undisturbed.heeds (fun _ => .done (.poll decided) reading) reading.heeds
  | pending undisturbed decided after inductionHypothesis =>
    refine undisturbed.heeds (fun fired => ?_) inductionHypothesis
    obtain ⟨rfl, rfl | rfl⟩ := after.of_fired fired
    · exact .pending (.poll decided)
    · exact .unseen (.poll decided)

/-- A wait that is not seen to end has made all the polls that its observer had patience for. -/
theorem Watching.pollCount_eq
    (watching : Watching env polling scope operation name patience world moments outcome)
    (unseen : outcome = .unfinished) : pollCount moments = patience := by
  induction watching with
  | unseen => rfl
  | stopped => cases unseen
  | woken => cases unseen
  | expired => cases unseen
  | failed => cases unseen
  | done _ _ reading => exact absurd unseen reading.ne_unfinished
  | pending _ _ _ inductionHypothesis =>
    rw [← inductionHypothesis unseen]
    simp [pollCount, restOf, pollOf, pollStep]

/-- A poll is decided by an operation that it was answered with and that is done or pending. -/
theorem pollVerdict_eq_ok {answer : Answer} {progress : Progress}
    (decided : pollVerdict operation answer = .ok (operation, progress)) :
    ∃ current, Operation.judge (.poll operation) answer = .ok current ∧
      current.check = .ok progress := by
  unfold pollVerdict at decided
  cases judged : Operation.judge (.poll operation) answer with
  | error cause =>
    rw [judged] at decided
    cases decided
  | ok current =>
    cases checked : current.check with
    | error cause =>
      simp only [judged, checked, bind, Except.bind] at decided
      cases decided
    | ok found =>
      simp only [judged, checked, bind, Except.bind] at decided
      cases decided
      exact ⟨current, rfl, checked⟩

/-- A poll fails with its answer, or with the operation that this holds. -/
theorem pollVerdict_eq_error {answer : Answer} {cause : LaunchError}
    (decided : pollVerdict operation answer = .error cause) :
    Operation.judge (.poll operation) answer = .error cause ∨
      ∃ current, Operation.judge (.poll operation) answer = .ok current ∧
        current.check = .error cause := by
  unfold pollVerdict at decided
  cases judged : Operation.judge (.poll operation) answer with
  | error found =>
    rw [judged] at decided
    cases decided
    exact .inl rfl
  | ok current =>
    cases checked : current.check with
    | error found =>
      simp only [judged, checked, bind, Except.bind] at decided
      cases decided
      exact .inr ⟨current, rfl, checked⟩
    | ok found =>
      simp only [judged, checked, bind, Except.bind] at decided
      cases decided

/-- The polls of a wait through its worlds are those of a wait. -/
theorem Watching.then_reading
    (watching : Watching env polling scope operation name patience world moments outcome) :
    Course.Then (Waiting env scope operation) (fun _ => Reading env scope name)
      (moments.filterMap Moment.step?) outcome := by
  induction watching with
  | unseen => exact .unfinished .unfinished
  | stopped => exact .failed .cancelled
  | woken => exact .failed .cancelled
  | expired => exact .failed .expired
  | failed _ decided =>
    rcases pollVerdict_eq_error decided with judged | ⟨current, judged, checked⟩
    · exact .failed (.refused judged)
    · exact .failed (.failed judged checked)
  | @done _ world rest outcome _ decided reading =>
    obtain ⟨current, judged, checked⟩ := pollVerdict_eq_ok decided
    have way : Course.Then (Waiting env scope operation) (fun _ => Reading env scope name)
        ([pollOf env polling scope operation world] ++ rest) outcome :=
      .passed (.done judged checked) reading
    rw [restOf, Moment.filterMap_step?_slept, Moment.filterMap_step?_asked,
      Moment.filterMap_step?_map_asked]
    exact way
  | pending _ decided _ inductionHypothesis =>
    obtain ⟨current, judged, checked⟩ := pollVerdict_eq_ok decided
    rw [restOf, Moment.filterMap_step?_slept, Moment.filterMap_step?_asked]
    generalize List.filterMap Moment.step? _ = steps at inductionHypothesis ⊢
    cases inductionHypothesis with
    | passed waiting reading =>
      exact Course.Then.passed (Waiting.pending judged checked waiting) reading
    | failed waiting => exact .failed (.pending judged checked waiting)
    | unfinished waiting => exact .unfinished (.pending judged checked waiting)

end Watching

section Insert

variable (env : Environment) (polling : Polling) (scope : Scope) (request : InsertRequest)

/-- The insert that is made in a world. -/
def insertOf (world : World) : Step :=
  insertStep scope request (env.requestId world) world

variable {env polling scope request} {world : World}

/-- An insert that the signal did not keep from being made, and what comes after it. -/
private theorem insertOf_heeds (calm : world.cancelled = false) {moments : List Moment}
    {outcome : Outcome InstanceSummary}
    (honours : ((Moment.asked (insertOf env scope request world)).after env).cancelled = true →
      Honours env scope request.name (.asked (insertOf env scope request world)) moments outcome)
    (rest : Heeds env scope request.name moments outcome) :
    Heeds env scope request.name (.asked (insertOf env scope request world) :: moments) outcome :=
  .cons (fun _ => calm) (fun _ => honours) rest

/-- An insert whose operation is pending, and the wait for it. -/
private theorem insertOf_heeds_watching (calm : world.cancelled = false) {operation : String}
    (decided : insertVerdict request.name ((insertOf env scope request world).answer env) =
      .ok (operation, .pending)) {patience : Nat} {moments : List Moment}
    {outcome : Outcome InstanceSummary}
    (watching : Watching env polling scope operation request.name patience
      ((Moment.asked (insertOf env scope request world)).after env) moments outcome) :
    Heeds env scope request.name (.asked (insertOf env scope request world) :: moments)
      outcome := by
  refine insertOf_heeds calm (fun fired => ?_) watching.heeds
  obtain ⟨rfl, rfl | rfl⟩ := watching.of_fired fired
  · exact .pending (.insert rfl decided)
  · exact .unseen (.insert rfl decided)

/-- What a run does after an insert that was accepted. -/
private def afterInsert (env : Environment) (polling : Polling) (scope : Scope)
    (request : InsertRequest) (operation : Operation) : Work World InstanceSummary := do
  settle env polling scope .shared operation
  let body ← InstanceSummary.fetch env scope request.name
  return InstanceSummary.project body scope.zone

/-- After an insert whose operation is pending a run waits and reads the machine back. -/
private theorem afterInsert_of_pending {operation : Operation}
    (checked : operation.check = .ok .pending) (world : World) :
    afterInsert env polling scope request operation world =
      watch env polling scope operation.name request.name (polling.timeout.after world.now)
        env.patience world := by
  unfold afterInsert settle
  rw [checked]
  change ((polling.wait env scope operation.name .shared >>= fun _ => Pure.pure ()) >>= _) world = _
  rw [Work.bind_assoc]
  rfl

/-- After an insert that was accepted, a run passes through its worlds and heeds its signal. -/
private theorem afterInsert_heeds (calm : world.cancelled = false) {operation : Operation}
    (judged : insertJudge request.name ((insertOf env scope request world).answer env) =
      .ok operation) (label : String) :
    let later := (Moment.asked (insertOf env scope request world)).after env
    let rest := afterInsert env polling scope request operation later
    HeedfulRun env scope request.name (Inserting env scope request label) world rest.1 rest.2 := by
  intro later rest
  have made {moments : List Moment} {final : World} (rest : Passage env later moments final) :
      Passage env world (.asked (insertOf env scope request world) :: moments) final :=
    @Passage.cons env (.asked (insertOf env scope request world)) _ _ rest
  have decided : insertVerdict request.name ((insertOf env scope request world).answer env) =
      operation.check.map fun progress => (operation.name, progress) := by
    rw [insertVerdict, judged]
    rfl
  cases checked : operation.check with
  | error cause =>
    have failed : rest = (.error cause, later) := by
      have settled : settle env polling scope .shared operation later = (.error cause, later) := by
        unfold settle
        rw [checked]
        rfl
      exact Work.bind_of_error settled
    rw [checked] at decided
    rw [failed]
    exact ⟨_, made .nil, .failed judged checked,
      insertOf_heeds calm (fun _ => .failed (.insert rfl decided)) .nil, nofun⟩
  | ok progress =>
    rw [checked] at decided
    cases progress with
    | done =>
      have settled : settle env polling scope .shared operation later = (.ok (), later) := by
        unfold settle
        rw [checked]
        rfl
      obtain ⟨steps, reading, way⟩ := fetch_treads env scope request.name later
      rw [← show rest = _ from Work.bind_of_ok settled] at reading way
      refine ⟨_, made reading, ?_, insertOf_heeds calm
        (fun _ => .done (.insert rfl decided) way) way.heeds,
        fun unseen => absurd unseen way.ne_unfinished⟩
      rw [Moment.filterMap_step?_asked, Moment.filterMap_step?_map_asked]
      exact .done judged checked way
    | pending =>
      obtain ⟨moments, passage, watching⟩ := watch_watching env polling scope operation.name
        request.name (polling.timeout.after later.now) env.patience later
      rw [← show rest = _ from afterInsert_of_pending checked later] at passage watching
      refine ⟨_, made passage, ?_, insertOf_heeds_watching calm decided watching,
        fun unseen => ?_⟩
      · rw [Moment.filterMap_step?_asked]
        exact .waited judged checked watching.then_reading
      · rw [← watching.pollCount_eq unseen]
        simp [pollCount, insertOf, insertStep]

/-- From the insert on, a run passes through its worlds and heeds its signal. -/
theorem insertAndReport_heeds (env : Environment) (polling : Polling) (spec : MachineSpec)
    (scope : Scope) (request : InsertRequest) (world : World) :
    let run := insertAndReport env polling .shared spec scope request world
    HeedfulRun env scope request.name (Inserting env scope request spec.instanceName) world run.1
      run.2 := by
  intro run
  cases fired : world.cancelled with
  | true =>
    have stop : run = (.error (.cancelled (.beforeInsert spec.instanceName)), world) :=
      Work.bind_of_error (heedBeforeInsert_of_fired fired spec)
    rw [stop]
    exact ⟨[], .nil, .cancelled, .nil, nofun⟩
  | false =>
    have inserted : insert env scope request world =
        (Outcome.ofExcept (insertJudge request.name
          ((insertOf env scope request world).answer env)),
          (Moment.asked (insertOf env scope request world)).after env) := by
      rw [insert_eq_ask]
      exact Work.ask_apply _ _ _ _
    have begins : run =
        (insert env scope request >>= afterInsert env polling scope request) world :=
      Work.bind_of_ok (heedBeforeInsert_of_calm fired spec)
    cases judged : insertJudge request.name ((insertOf env scope request world).answer env) with
    | error cause =>
      have decided : insertVerdict request.name ((insertOf env scope request world).answer env) =
          .error cause := by simp [insertVerdict, judged, bind, Except.bind]
      rw [judged] at inserted
      rw [begins, Work.bind_of_error inserted]
      exact ⟨_, @Passage.cons env (.asked (insertOf env scope request world)) _ _ .nil,
        .refused judged, insertOf_heeds fired (fun _ => .failed (.insert rfl decided)) .nil, nofun⟩
    | ok operation =>
      rw [judged] at inserted
      rw [begins, Work.bind_of_ok inserted]
      exact afterInsert_heeds fired judged spec.instanceName

end Insert

end VmLaunch.Launch
