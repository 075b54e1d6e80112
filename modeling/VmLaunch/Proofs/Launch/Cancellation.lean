import VmLaunch.Proofs.Launch.Forget
import VmLaunch.Proofs.Launch.Heed

/-!
# Cancellation

A run heeds its signal before the insert, before every sleep between polls and after it. So an
insert or a poll is made only while the signal has not fired, and what is under way when it fires
still counts: `Heeds` says so of the moments of a run, and `provision_heeds` of every run. A signal
that does not fire is no different from one that never can.
-/

namespace VmLaunch.Launch

/-- Work that is as other work, or ends as cancelled when the signal has fired. -/
def Cuts {σ α : Type} (fired : σ → Bool) (cut full : Work σ α) : Prop :=
  ∀ state, cut state = full state ∨
    fired (cut state).2 = true ∧ ∃ halt, (cut state).1 = .error (.cancelled halt)

namespace Cuts

variable {σ α β : Type} {fired : σ → Bool}

/-- Work that heeds no signal is cut nowhere. -/
theorem refl (work : Work σ α) : Cuts fired work work :=
  fun _ => .inl rfl

/-- Work is cut in its first part, or in what follows the value of that part. -/
theorem bind {cut full : Work σ α} {cutNext fullNext : α → Work σ β}
    (first : Cuts fired cut full) (next : ∀ value, Cuts fired (cutNext value) (fullNext value)) :
    Cuts fired (cut >>= cutNext) (full >>= fullNext) := by
  intro state
  rcases run : cut state with ⟨outcome, middle⟩
  rcases first state with same | ⟨cancelled, halt, stopped⟩
  · rw [run] at same
    cases outcome with
    | ok value =>
      rw [Work.bind_of_ok run, Work.bind_of_ok same.symm]
      exact next value middle
    | error cause =>
      rw [Work.bind_of_error run, Work.bind_of_error same.symm]
      exact .inl rfl
    | unfinished =>
      rw [Work.bind_of_unfinished run, Work.bind_of_unfinished same.symm]
      exact .inl rfl
  · rw [run] at cancelled stopped
    cases stopped
    rw [Work.bind_of_error run]
    exact .inr ⟨cancelled, halt, rfl⟩

/-- Work on worlds that is cut there is so in sessions. -/
theorem inSession {cut full : Work World α} (cuts : Cuts World.cancelled cut full) :
    Cuts (fun session => session.world.cancelled) cut.inSession full.inSession := by
  intro session
  rcases cuts session.world with same | stopped
  · exact .inl (by rw [Work.inSession, Work.inSession, same])
  · exact .inr stopped

end Cuts

/-- To heed a signal cuts where it has fired. -/
theorem heed_cuts (operation : String) :
    Cuts World.cancelled (Polling.heed .shared operation) (Polling.heed .never operation) := by
  intro world
  cases fired : world.cancelled with
  | false => exact .inl (heed_of_calm fired operation)
  | true =>
    rw [heed_of_fired fired]
    exact .inr ⟨fired, _, rfl⟩

/-- Rounds of waiting that heed a signal are those without, cut where it has fired. -/
theorem rounds_cuts (env : Environment) (polling : Polling) (scope : Scope) (operation : String)
    (deadline patience : Nat) :
    Cuts World.cancelled (Polling.rounds env polling scope operation .shared deadline patience)
      (Polling.rounds env polling scope operation .never deadline patience) := by
  induction patience with
  | zero => exact .refl _
  | succ patience inductionHypothesis =>
    unfold Polling.rounds
    refine (heed_cuts operation).bind fun _ => (Cuts.refl _).bind fun _ =>
      (heed_cuts operation).bind fun _ => (Cuts.refl _).bind fun now => ?_
    by_cases late : deadline < now
    · simp only [late, if_true]
      exact .refl _
    · simp only [late, if_false]
      refine (Cuts.refl _).bind fun current => (Cuts.refl _).bind fun progress => ?_
      cases progress with
      | done => exact .refl _
      | pending => exact inductionHypothesis

/-- To insert a machine and report it heeding a signal is to do so without, cut where it has fired.
-/
theorem insertAndReport_cuts (env : Environment) (polling : Polling) (spec : MachineSpec)
    (scope : Scope) (request : InsertRequest) :
    Cuts World.cancelled (insertAndReport env polling .shared spec scope request)
      (insertAndReport env polling .never spec scope request) := by
  have before :
      Cuts World.cancelled (heedBeforeInsert .shared spec) (heedBeforeInsert .never spec) := by
    intro world
    cases fired : world.cancelled with
    | false => exact .inl (heedBeforeInsert_of_calm fired spec)
    | true =>
      rw [heedBeforeInsert_of_fired fired]
      exact .inr ⟨fired, _, rfl⟩
  unfold insertAndReport
  refine before.bind fun _ => (Cuts.refl _).bind fun operation => ?_
  refine Cuts.bind ?_ fun _ => .refl _
  unfold settle
  refine (Cuts.refl _).bind fun progress => ?_
  cases progress with
  | done => exact .refl _
  | pending =>
    exact ((Cuts.refl _).bind fun deadline => rounds_cuts env polling scope _ deadline _).bind
      fun _ => .refl _

/-- A run whose signal does not fire is the run without a signal; any other is that run too, or it
was cancelled. -/
theorem provision_cuts (env : Environment) (polling : Polling) (spec : MachineSpec)
    (session : Session) :
    provision env polling .shared spec session = provision env polling .never spec session ∨
      (provision env polling .shared spec session).2.world.cancelled = true ∧
        ∃ halt, (provision env polling .shared spec session).1 = .error (.cancelled halt) := by
  have cuts : Cuts (fun session => session.world.cancelled)
      (provision env polling .shared spec) (provision env polling .never spec) :=
    (Cuts.refl _).bind fun run => (Cuts.refl _).bind fun tags => (Cuts.refl _).bind fun _ =>
      (insertAndReport_cuts env polling spec run.scope _).inSession
  exact cuts session

section Run

variable {env : Environment} {spec : MachineSpec} {scope : Scope} {steps : List Step}

/-- Steps before the insert are none before which the signal is heeded. -/
theorem heedless_of_earlier (earlier : ∀ step ∈ steps, step.stage.rank < Stage.insert.rank) :
    ∀ moment ∈ steps.map Moment.asked, ¬ moment.Heedful := by
  intro moment member
  obtain ⟨step, among, rfl⟩ := List.mem_map.mp member
  have before := earlier step among
  rintro (stage | stage)
  · rw [stage] at before
    exact absurd before (by decide)
  · rw [stage] at before
    exact absurd before (by decide)

/-- Steps before the insert count for no poll. -/
theorem pollCount_of_earlier (earlier : ∀ step ∈ steps, step.stage.rank < Stage.insert.rank)
    (moments : List Moment) : pollCount (steps.map .asked ++ moments) = pollCount moments := by
  have none : steps.countP (·.stage = .poll) = 0 := by
    refine List.countP_eq_zero.mpr fun step member stage => ?_
    have before := earlier step member
    rw [of_decide_eq_true stage] at before
    exact absurd before (by decide)
  rw [pollCount, List.filterMap_append, Moment.filterMap_step?_map_asked, List.countP_append, none,
    Nat.zero_add, pollCount]

/-- What is done before the insert leaves the run heedful of its signal. -/
theorem HeedfulRun.bind {α : Type} {name : String} {first : Work World α}
    {next : α → Work Session InstanceSummary} {head : Course Step α}
    {tail : α → Course Step InstanceSummary} (treads : first.Treads env head)
    (earlier : ∀ steps outcome, head steps outcome →
      ∀ step ∈ steps, step.stage.rank < Stage.insert.rank)
    (ends : ∀ steps, ¬ head steps .unfinished)
    (after : ∀ steps value, head steps (.ok value) → ∀ session, HeedfulRun env scope name
      (tail value) session.world (next value session).1 (next value session).2.world)
    (session : Session) :
    HeedfulRun env scope name (head.Then tail) session.world
      ((first.inSession >>= next) session).1 ((first.inSession >>= next) session).2.world := by
  obtain ⟨steps, passage, way⟩ := treads session.world
  have heedless := heedless_of_earlier (earlier steps _ way)
  rcases run : first session.world with ⟨outcome, middle⟩
  rw [run] at passage way
  have ran := Work.inSession_of_eq run
  cases outcome with
  | ok value =>
    obtain ⟨moments, rest, onward, heeds, spent⟩ :=
      after steps value way { session with world := middle }
    rw [Work.bind_of_ok ran]
    refine ⟨_, passage.trans rest, ?_, heeds.prepend heedless, fun unseen => ?_⟩
    · rw [List.filterMap_append, Moment.filterMap_step?_map_asked]
      exact .passed way onward
    · rw [pollCount_of_earlier (earlier steps _ way)]
      exact spent unseen
  | error cause =>
    rw [Work.bind_of_error ran]
    refine ⟨_, passage, ?_, ?_, nofun⟩
    · rw [Moment.filterMap_step?_map_asked]
      exact .failed way
    · simpa using Heeds.nil.prepend heedless
  | unfinished => exact absurd way (ends steps)

/-- A run passes through its worlds and heeds its signal. -/
theorem provision_heedful (env : Environment) (polling : Polling) {spec : MachineSpec}
    {rules : List FirewallRule} (valid : spec.check = .ok ()) (complete : spec.rules = .ok rules)
    (session : Session) :
    HeedfulRun env (spec.scope env.project) spec.instanceName
      (launchCourse env spec (spec.scope env.project) rules) session.world
      (provision env polling .shared spec session).1
      (provision env polling .shared spec session).2.world := by
  refine HeedfulRun.bind (prepare_treads env valid complete) ?_
    (fun steps way => prepareCourse_ne_unfinished way rfl) ?_ session
  · intro steps outcome way step member
    have place := (prepareCourse_segment way).placed step member
    exact Nat.lt_succ_of_lt place.2
  · intro lookups run prepared session
    rw [← (prepareCourse_value prepared).1]
    refine HeedfulRun.bind (createAll_treads env _ _ _ 0 []) (fun _ _ creating => creating.earlier)
      (fun steps creating => creating.ne_unfinished rfl) ?_ session
    intro creations tags _ session
    have heedful := insertAndReport_heeds env polling spec run.scope
      (InsertRequest.assemble spec run.scope run.resolved tags) session.world
    rw [Work.bind_of_ok (forgetRules_apply _ _ _)]
    exact heedful

/-- Whatever a run is made of and whenever its signal fires: the insert, the polls and the sleeps
between them begin only while it has not fired, and the one that is under way when it fires still
counts, as `Honours` says. A signal that has not fired by the end of the run makes no difference
to it, be it that no one fires it or that no one can any more; and one that has fired makes none
but to cancel it. -/
theorem provision_heeds (env : Environment) (polling : Polling) (spec : MachineSpec)
    (session : Session) :
    let run := provision env polling .shared spec session
    let free := provision env polling .never spec session
    (∃ moments, Passage env session.world moments run.2.world ∧
      InOrder env spec (spec.scope env.project) (moments.filterMap Moment.step?) ∧
      Heeds env (spec.scope env.project) spec.instanceName moments run.1 ∧
      (run.1 = .unfinished → pollCount moments = env.patience)) ∧
    (run.2.world.cancelled = false → run = free) ∧
    (run = free ∨ ∃ halt, run.1 = .error (.cancelled halt)) := by
  intro run free
  refine ⟨?_, fun calm => ?_, ?_⟩
  · cases valid : spec.check with
    | error cause =>
      have stop : run = (.error (.invalid cause), session) :=
        provision_of_invalid env polling .shared valid session
      rw [stop]
      exact ⟨[], .nil, ⟨.nil, by simp, by simp, by simp⟩, .nil, nofun⟩
    | ok value =>
      obtain ⟨-, rules, complete⟩ := rules_of_check valid
      obtain ⟨moments, passage, way, heeds, spent⟩ :=
        provision_heedful env polling valid complete session
      exact ⟨moments, passage, launchCourse_inOrder complete way, heeds, spent⟩
  · rcases provision_cuts env polling spec session with same | ⟨fired, -⟩
    · exact same
    · exact absurd (calm.symm.trans fired) (by decide)
  · rcases provision_cuts env polling spec session with same | ⟨-, halted⟩
    · exact .inl same
    · exact .inr halted

end Run

end VmLaunch.Launch
