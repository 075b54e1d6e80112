import Mathlib.Data.Nat.Find
import VmLaunch.Proofs.Launch.Waiting

/-!
# The schedule of a wait

On a clock that only sleeps move, a wait polls at whole intervals after its beginning, as
long as the deadline is not passed and the answers are pending. A `Vigil` retains what a
wait is made of; `Vigil.answer` is the sequence of answers that its provider would give,
and `Vigil.wait_schedule` says from that sequence alone when a wait ends and how.
-/

namespace VmLaunch

/-- A clock that only sleeps move, each by its length. -/
structure Environment.Manual (env : Environment) : Prop where
  prompt : env.Prompt
  exact : ∀ world d, (env.pause world d).elapsed = d.span.nanos

/-- A signal that does not fire, whatever happens from a world on. -/
def Signal.Quiet (signal : Signal) (env : Environment) (world : World) : Prop :=
  signal = .never ∨
    world.cancelled = false ∧ (∀ other call, (env.reply other call).interrupts = false) ∧
      ∀ other d, (env.pause other d).interrupts = false

namespace Signal.Quiet

variable {signal : Signal} {env : Environment} {world : World}

/-- A quiet signal has not fired. -/
theorem fired (quiet : signal.Quiet env world) : signal.fired world = false := by
  rcases quiet with rfl | ⟨calm, -, -⟩
  · rfl
  · cases signal with
    | never => rfl
    | shared => exact calm

/-- A quiet signal is quiet after a pause. -/
theorem afterPause (quiet : signal.Quiet env world) (d : Duration) :
    signal.Quiet env (world.afterPause (env.pause world d)) := by
  rcases quiet with rfl | ⟨calm, replies, pauses⟩
  · exact .inl rfl
  · exact .inr ⟨by simp [World.afterPause, calm, pauses], replies, pauses⟩

/-- A quiet signal is quiet after a call. -/
theorem afterCall (quiet : signal.Quiet env world) (call : Call) :
    signal.Quiet env (world.afterCall call (env.reply world call)) := by
  rcases quiet with rfl | ⟨calm, replies, pauses⟩
  · exact .inl rfl
  · exact .inr ⟨by simp [World.afterCall, calm, replies], replies, pauses⟩

/-- A signal that does not fire is heeded in vain. -/
theorem heed (quiet : signal.Quiet env world) (operation : String) :
    Polling.heed signal operation world = (.ok (), world) := by
  simp [Polling.heed, bind, Work.bind, Work.read, quiet.fired, Pure.pure, Work.pure]

end Signal.Quiet

namespace Operation

/-- An answer that the provider still works on the operation. -/
def IsPending (answer : Answer) : Prop :=
  ∃ current, ofAnswer? answer = some current ∧ current.Unfinished

/-- How an answer that is not pending ends a wait. -/
inductive Verdict (operation : String) : Answer → Outcome Operation → Prop where
  | done {body current} (decoded : decode body = some current)
      (finished : current.status = "DONE") (clean : current.errors.getD [] = []) :
      Verdict operation (.ok body) (.ok current)
  | failed {body current fault rest} (decoded : decode body = some current)
      (finished : current.status = "DONE") (faulty : current.errors.getD [] = fault :: rest) :
      Verdict operation (.ok body)
        (.error (.operationFailed (if fault.message = "" then fault.code else fault.message)))
  | unexpected {body current} (decoded : decode body = some current)
      (unfinished : current.status ≠ "DONE") (idle : ¬ current.Unfinished) :
      Verdict operation (.ok body) (.error (.unexpectedStatus current.name current.status))
  | refused {fault} : Verdict operation (.error fault) (.error (.provider (.poll operation) fault))
  | malformed {body} (unreadable : decode body = none) :
      Verdict operation (.ok body) (.error (.malformed .operation))

/-- An answer that is not pending ends the wait. -/
theorem Verdict.ne_unfinished {operation : String} {answer : Answer} {outcome : Outcome Operation}
    (verdict : Verdict operation answer outcome) : outcome ≠ .unfinished := by
  cases verdict <;> simp

/-- An answer that is not pending is taken for what its verdict says. -/
theorem verdict_of_not_pending (operation : String) {answer : Answer} (idle : ¬ IsPending answer) :
    (∃ current, Verdict operation answer (.ok current) ∧
        judge (.poll operation) answer = .ok current ∧ current.check = .ok .done) ∨
      ∃ cause, Verdict operation answer (.error cause) ∧
        (judge (.poll operation) answer = .error cause ∨
          ∃ current, judge (.poll operation) answer = .ok current ∧
            current.check = .error cause) := by
  cases answer with
  | error fault => exact .inr ⟨_, .refused, .inl rfl⟩
  | ok body =>
    cases decoded : decode body with
    | none => exact .inr ⟨_, .malformed decoded, .inl (by simp [judge, decoded])⟩
    | some current =>
      have judged : judge (.poll operation) (.ok body) = .ok current := by simp [judge, decoded]
      have resting : ¬ current.Unfinished := fun working => idle ⟨current, decoded, working⟩
      by_cases finished : current.status = "DONE"
      · cases errors : current.errors.getD [] with
        | nil =>
          exact .inl ⟨current, .done decoded finished errors, judged,
            check_eq_done_iff.mpr ⟨finished, errors⟩⟩
        | cons fault rest =>
          refine .inr ⟨_, .failed decoded finished errors, .inr ⟨current, judged, ?_⟩⟩
          simp [check, firstError?, finished, errors, OperationFault.reason]
      · refine .inr ⟨_, .unexpected decoded finished resting, .inr ⟨current, judged, ?_⟩⟩
        have foreign : ¬ (current.status = "PENDING" ∨ current.status = "RUNNING") := resting
        rw [check, if_neg finished, if_neg foreign]

end Operation

namespace Launch

/-- A wait for an operation from a world on, with the way it is polled for. -/
structure Vigil where
  env : Environment
  polling : Polling
  scope : Scope
  operation : String
  start : World

namespace Vigil

/-- The call that asks for the operation. -/
def call (vigil : Vigil) : Call :=
  .get (Operation.path vigil.scope vigil.operation)

/-- A world after one more interval. -/
def rested (vigil : Vigil) (world : World) : World :=
  world.afterPause (vigil.env.pause world vigil.polling.interval)

/-- The world after a number of rounds, each with a poll. -/
def after (vigil : Vigil) : Nat → World
  | 0 => vigil.start
  | rounds + 1 =>
    let world := vigil.rested (vigil.after rounds)
    world.afterCall vigil.call (vigil.env.reply world vigil.call)

/-- The world in which the poll is made that comes after a number of others. -/
def asking (vigil : Vigil) (earlier : Nat) : World :=
  vigil.rested (vigil.after earlier)

/-- The answer to the poll that comes after a number of others. -/
def answer (vigil : Vigil) (earlier : Nat) : Answer :=
  (vigil.env.reply (vigil.asking earlier) vigil.call).answer

/-- How many intervals fit into the time that the wait has. -/
def limit (vigil : Vigil) : Nat :=
  vigil.polling.timeout.nanos / vigil.polling.interval.nanos

/-- The wait. -/
def wait (vigil : Vigil) (signal : Signal) : Outcome Operation × World :=
  vigil.polling.wait vigil.env vigil.scope vigil.operation signal vigil.start

/-- The exchanges of a number of polls, made one interval after the other. -/
def polls (vigil : Vigil) (count : Nat) : List Exchange :=
  (List.range count).map fun earlier =>
    { call := vigil.call
      answer := vigil.answer earlier
      time := vigil.start.now + (earlier + 1) * vigil.polling.interval.nanos }

variable {vigil : Vigil} {signal : Signal}

/-- The rounds of the wait that are left, up to a deadline. -/
private def onward (vigil : Vigil) (signal : Signal) (deadline patience : Nat) :
    Work World Operation :=
  Polling.rounds vigil.env vigil.polling vigil.scope vigil.operation signal deadline patience

/-- A quiet signal is quiet after any number of rounds. -/
theorem quiet_after (quiet : signal.Quiet vigil.env vigil.start) (rounds : Nat) :
    signal.Quiet vigil.env (vigil.after rounds) := by
  induction rounds with
  | zero => exact quiet
  | succ rounds inductionHypothesis => exact (inductionHypothesis.afterPause _).afterCall _

/-- What a round does after its sleep. -/
private theorem onward_succ (quiet : signal.Quiet vigil.env vigil.start)
    (deadline patience earlier : Nat) :
    vigil.onward signal deadline (patience + 1) (vigil.after earlier) =
      (if deadline < (vigil.asking earlier).now then
        Work.fail (.operationTimeout vigil.operation)
      else do
        let current ← Work.ask vigil.env vigil.call (Operation.judge (.poll vigil.operation))
        match ← Work.ofExcept current.check with
        | .done => return current
        | .pending => vigil.onward signal deadline patience) (vigil.asking earlier) := by
  have calm := quiet_after quiet earlier
  have awake : signal.Quiet vigil.env (vigil.asking earlier) := calm.afterPause _
  have slept : vigil.env.sleep vigil.polling.interval (vigil.after earlier) =
      (.ok (), vigil.asking earlier) := rfl
  rw [onward, Polling.rounds, Work.bind_of_ok (calm.heed _), Work.bind_of_ok slept,
    Work.bind_of_ok (awake.heed _), poll_eq_ask]
  rfl

/-- A wait whose deadline has passed is over. -/
private theorem onward_late (quiet : signal.Quiet vigil.env vigil.start) {deadline earlier : Nat}
    (late : deadline < (vigil.asking earlier).now) (patience : Nat) :
    vigil.onward signal deadline (patience + 1) (vigil.after earlier) =
      (.error (.operationTimeout vigil.operation), vigil.asking earlier) := by
  rw [onward_succ quiet, if_pos late]
  rfl

/-- A poll is judged by its answer and takes the wait to the next round. -/
private theorem ask_asking (vigil : Vigil) (earlier : Nat) :
    Work.ask vigil.env vigil.call (Operation.judge (.poll vigil.operation))
        (vigil.asking earlier) =
      (Outcome.ofExcept (Operation.judge (.poll vigil.operation) (vigil.answer earlier)),
        vigil.after (earlier + 1)) :=
  Work.ask_apply _ _ _ _

/-- A pending answer leads to the next round. -/
private theorem onward_pending (quiet : signal.Quiet vigil.env vigil.start)
    {deadline earlier : Nat} (early : ¬ deadline < (vigil.asking earlier).now)
    (pending : Operation.IsPending (vigil.answer earlier)) (patience : Nat) :
    vigil.onward signal deadline (patience + 1) (vigil.after earlier) =
      vigil.onward signal deadline patience (vigil.after (earlier + 1)) := by
  obtain ⟨current, held, working⟩ := pending
  have asked := vigil.ask_asking earlier
  rw [Operation.judge_eq_ok_iff.mpr held] at asked
  rw [onward_succ quiet, if_neg early, Work.bind_of_ok asked,
    Operation.check_eq_pending_iff.mpr working]
  rfl

/-- Any other answer ends the wait with its verdict. -/
private theorem onward_decided (quiet : signal.Quiet vigil.env vigil.start)
    {deadline earlier : Nat} (early : ¬ deadline < (vigil.asking earlier).now)
    (idle : ¬ Operation.IsPending (vigil.answer earlier)) (patience : Nat) :
    ∃ outcome, Operation.Verdict vigil.operation (vigil.answer earlier) outcome ∧
      vigil.onward signal deadline (patience + 1) (vigil.after earlier) =
        (outcome, vigil.after (earlier + 1)) := by
  have asked := vigil.ask_asking earlier
  rw [onward_succ quiet, if_neg early]
  rcases Operation.verdict_of_not_pending vigil.operation idle with
    ⟨current, verdict, judged, checked⟩ | ⟨cause, verdict, judged | ⟨current, judged, checked⟩⟩
  · rw [judged] at asked
    refine ⟨_, verdict, ?_⟩
    rw [Work.bind_of_ok asked, checked]
    rfl
  · rw [judged] at asked
    exact ⟨_, verdict, Work.bind_of_error asked⟩
  · rw [judged] at asked
    refine ⟨_, verdict, ?_⟩
    rw [Work.bind_of_ok asked, checked]
    rfl

/-- Rounds with pending answers before the deadline lead to the round after them. -/
private theorem onward_of_pending (quiet : signal.Quiet vigil.env vigil.start)
    {deadline rounds : Nat} (early : ∀ earlier < rounds, ¬ deadline < (vigil.asking earlier).now)
    (pending : ∀ earlier < rounds, Operation.IsPending (vigil.answer earlier)) (patience : Nat) :
    vigil.onward signal deadline (patience + rounds) vigil.start =
      vigil.onward signal deadline patience (vigil.after rounds) := by
  induction rounds generalizing patience with
  | zero => rfl
  | succ rounds inductionHypothesis =>
    have before : patience + (rounds + 1) = patience + 1 + rounds := by omega
    rw [before, inductionHypothesis (fun earlier within => early earlier (by omega))
      (fun earlier within => pending earlier (by omega)) (patience + 1)]
    exact onward_pending quiet (early rounds (by omega)) (pending rounds (by omega)) patience

/-- Rounds take one interval each. -/
theorem now_after (manual : vigil.env.Manual)
    (short : vigil.polling.interval.nanos ≤ Duration.century.nanos) (rounds : Nat) :
    (vigil.after rounds).now = vigil.start.now + rounds * vigil.polling.interval.nanos ∧
      (vigil.asking rounds).now =
        vigil.start.now + (rounds + 1) * vigil.polling.interval.nanos := by
  have slept : ∀ world, (vigil.rested world).now = world.now + vigil.polling.interval.nanos := by
    intro world
    simp [rested, World.afterPause, manual.exact, Duration.span_of_le_century short]
  induction rounds with
  | zero => exact ⟨by simp [after], by simp [asking, after, slept]⟩
  | succ rounds inductionHypothesis =>
    have later : (vigil.after (rounds + 1)).now =
        vigil.start.now + (rounds + 1) * vigil.polling.interval.nanos := by
      have prompt := manual.prompt (vigil.rested (vigil.after rounds)) vigil.call
      rw [← inductionHypothesis.2]
      simp [after, World.afterCall, prompt, asking]
    refine ⟨later, ?_⟩
    rw [asking, slept, later, Nat.succ_mul (rounds + 1), Nat.add_assoc]

/-- Each round adds its poll to the history. -/
theorem history_after (manual : vigil.env.Manual)
    (short : vigil.polling.interval.nanos ≤ Duration.century.nanos) (rounds : Nat) :
    (vigil.after rounds).history = vigil.start.history ++ vigil.polls rounds := by
  induction rounds with
  | zero => simp [after, polls]
  | succ rounds inductionHypothesis =>
    have asked : (vigil.after (rounds + 1)).history = (vigil.after rounds).history ++
        [⟨vigil.call, vigil.answer rounds, (vigil.asking rounds).now⟩] := rfl
    rw [asked, inductionHypothesis, (now_after manual short rounds).2]
    simp [polls, List.range_succ]

/-- Of the answers that are not pending, one is the first. -/
private theorem exists_first_idle {rounds : Nat}
    (idle : ¬ ∀ earlier < rounds, Operation.IsPending (vigil.answer earlier)) :
    ∃ last < rounds, (∀ earlier < last, Operation.IsPending (vigil.answer earlier)) ∧
      ¬ Operation.IsPending (vigil.answer last) := by
  classical
  have some_idle : ∃ last, last < rounds ∧ ¬ Operation.IsPending (vigil.answer last) := by
    simpa using idle
  obtain ⟨within, ends⟩ := Nat.find_spec some_idle
  refine ⟨_, within, fun earlier before => ?_, ends⟩
  have sooner := Nat.find_min some_idle before
  simpa [Nat.lt_trans before within] using sooner

section Rounds

variable (manual : vigil.env.Manual) (positive : 0 < vigil.polling.interval.nanos)
  (short : vigil.polling.interval.nanos ≤ Duration.century.nanos)
  (bounded : vigil.polling.timeout.nanos ≤ Duration.century.nanos)

include manual positive short bounded

/-- The deadline is passed once every interval that fits is over. -/
private theorem late_iff (earlier : Nat) :
    vigil.polling.timeout.after vigil.start.now < (vigil.asking earlier).now ↔
      vigil.limit ≤ earlier := by
  have reached : vigil.limit ≤ earlier ↔
      vigil.polling.timeout.nanos < (earlier + 1) * vigil.polling.interval.nanos := by
    rw [← Nat.lt_succ_iff, limit, Nat.div_lt_iff_lt_mul positive]
  rw [(now_after manual short earlier).2, Duration.after, Duration.span_of_le_century bounded,
    reached, Nat.add_lt_add_iff_left]

variable (quiet : signal.Quiet vigil.env vigil.start) (patient : vigil.limit < vigil.env.patience)

include quiet patient

/-- A wait is in the round that comes after pending answers, as long as intervals are left. -/
private theorem wait_of_pending {rounds : Nat} (within : rounds ≤ vigil.limit)
    (pending : ∀ earlier < rounds, Operation.IsPending (vigil.answer earlier)) :
    ∃ patience, vigil.wait signal = vigil.onward signal
      (vigil.polling.timeout.after vigil.start.now) (patience + 1) (vigil.after rounds) := by
  obtain ⟨patience, enough⟩ := Nat.exists_eq_add_of_lt (Nat.lt_of_le_of_lt within patient)
  have early : ∀ earlier < rounds,
      ¬ vigil.polling.timeout.after vigil.start.now < (vigil.asking earlier).now := by
    intro earlier before
    rw [late_iff manual positive short bounded]
    omega
  have total : patience + 1 + rounds = vigil.env.patience := by omega
  refine ⟨patience, ?_⟩
  rw [← onward_of_pending quiet early pending, total]
  rfl

/-- The first answer that is not pending decides a wait. -/
private theorem wait_decided {last : Nat} (within : last < vigil.limit)
    (pending : ∀ earlier < last, Operation.IsPending (vigil.answer earlier))
    (idle : ¬ Operation.IsPending (vigil.answer last)) :
    Operation.Verdict vigil.operation (vigil.answer last) (vigil.wait signal).1 ∧
      (vigil.wait signal).2 = vigil.after (last + 1) := by
  obtain ⟨patience, run⟩ :=
    wait_of_pending manual positive short bounded quiet patient (Nat.le_of_lt within) pending
  have early : ¬ vigil.polling.timeout.after vigil.start.now < (vigil.asking last).now := by
    rw [late_iff manual positive short bounded]
    omega
  obtain ⟨outcome, verdict, ends⟩ := onward_decided quiet early idle patience
  rw [run, ends]
  exact ⟨verdict, rfl⟩

/-- A wait without a decision ends once every interval that fits is over. -/
private theorem wait_expired
    (pending : ∀ earlier < vigil.limit, Operation.IsPending (vigil.answer earlier)) :
    vigil.wait signal =
      (.error (.operationTimeout vigil.operation), vigil.asking vigil.limit) := by
  obtain ⟨patience, run⟩ :=
    wait_of_pending manual positive short bounded quiet patient (Nat.le_refl _) pending
  rw [run]
  exact onward_late quiet ((late_iff manual positive short bounded _).mpr (Nat.le_refl _)) patience

end Rounds

/-- A wait polls until an answer is not pending and ends with the verdict of that answer, one
interval after the other, unless every interval that its time holds is over before. Then it
ends in the interval after them, without a poll, and says that its time has run out. An
observer who is patient for one round more than intervals fit sees every wait end. -/
theorem wait_schedule (vigil : Vigil) (signal : Signal) (manual : vigil.env.Manual)
    (quiet : signal.Quiet vigil.env vigil.start)
    (positive : 0 < vigil.polling.interval.nanos)
    (short : vigil.polling.interval.nanos ≤ Duration.century.nanos)
    (bounded : vigil.polling.timeout.nanos ≤ Duration.century.nanos)
    (patient : vigil.limit < vigil.env.patience) :
    (∀ last < vigil.limit, (∀ earlier < last, Operation.IsPending (vigil.answer earlier)) →
      ¬ Operation.IsPending (vigil.answer last) →
        Operation.Verdict vigil.operation (vigil.answer last) (vigil.wait signal).1 ∧
        (vigil.wait signal).2.history = vigil.start.history ++ vigil.polls (last + 1) ∧
        (vigil.wait signal).2.now =
          vigil.start.now + (last + 1) * vigil.polling.interval.nanos) ∧
    ((∀ earlier < vigil.limit, Operation.IsPending (vigil.answer earlier)) →
      (vigil.wait signal).1 = .error (.operationTimeout vigil.operation) ∧
      (vigil.wait signal).2.history = vigil.start.history ++ vigil.polls vigil.limit ∧
      (vigil.wait signal).2.now =
        vigil.start.now + (vigil.limit + 1) * vigil.polling.interval.nanos) ∧
    (vigil.wait signal).1 ≠ .unfinished := by
  have expired := wait_expired manual positive short bounded quiet patient
  refine ⟨fun last within pending idle => ?_, fun pending => ?_, ?_⟩
  · obtain ⟨verdict, world⟩ :=
      wait_decided manual positive short bounded quiet patient within pending idle
    rw [world]
    exact ⟨verdict, history_after manual short _, (now_after manual short _).1⟩
  · rw [expired pending]
    exact ⟨rfl, history_after manual short _, (now_after manual short _).2⟩
  · by_cases pending : ∀ earlier < vigil.limit, Operation.IsPending (vigil.answer earlier)
    · rw [expired pending]
      simp
    · obtain ⟨last, within, pending, idle⟩ := exists_first_idle pending
      have decided := wait_decided manual positive short bounded quiet patient within pending idle
      exact decided.1.ne_unfinished

/-- A provider that needs two polls. -/
def slowProvider : Environment where
  project := ""
  requestId _ := ""
  reply world _ :=
    { answer := .ok (.obj [("name", .str "create"),
        ("status", .str (if world.history.length < 2 then "RUNNING" else "DONE"))]) }
  pause := Pause.manual
  patience := 4

/-- A wait whose time is three intervals. -/
def slowVigil : Vigil where
  env := slowProvider
  polling := ⟨.ofSecs 3, .ofSecs 9⟩
  scope := ⟨"demo", "europe-west1", "europe-west1-b"⟩
  operation := "create"
  start := {}

/-- A wait that finds its operation done at the very end of its time is not too late. -/
theorem wait_schedule_slowVigil :
    slowVigil.limit = 3 ∧ Operation.IsPending (slowVigil.answer 0) ∧
      Operation.IsPending (slowVigil.answer 1) ∧ ¬ Operation.IsPending (slowVigil.answer 2) ∧
      Operation.Verdict "create" (slowVigil.answer 2) (slowVigil.wait .never).1 ∧
      (slowVigil.wait .never).2.history = slowVigil.polls 3 ∧
      (slowVigil.wait .never).2.now = 3 * (Duration.ofSecs 3).nanos := by
  have limit : slowVigil.limit = 3 := by decide
  have first : Operation.IsPending (slowVigil.answer 0) := ⟨_, rfl, .inr rfl⟩
  have second : Operation.IsPending (slowVigil.answer 1) := ⟨_, rfl, .inr rfl⟩
  have third : ¬ Operation.IsPending (slowVigil.answer 2) := by
    rintro ⟨current, held, working⟩
    cases held
    rcases working with status | status
    · exact absurd status (by decide)
    · exact absurd status (by decide)
  have schedule := wait_schedule slowVigil .never ⟨fun _ _ => rfl, fun _ _ => rfl⟩ (.inl rfl)
    (by decide) (by decide) (by decide) (by decide)
  have pending : ∀ earlier < 2, Operation.IsPending (slowVigil.answer earlier)
    | 0, _ => first
    | 1, _ => second
  obtain ⟨verdict, history, now⟩ := schedule.1 2 (by decide) pending third
  exact ⟨limit, first, second, third, verdict, history, now⟩

end Vigil

end Launch

end VmLaunch
