import Mathlib.Logic.Function.Iterate
import VmLaunch.Proofs.Launch.Forget
import VmLaunch.Proofs.Launch.Routines

/-!
# Callers of one catalog

Listings of firewall rules and runs are calls that share a catalog. A `Caller` is such a call on
its way, which does one thing at a time: it looks up or stores a listing, asks the provider once,
sleeps, looks at the world or drops the stored rules. `Caller.step` is what it does next, and a
caller that is alone comes to the end of its work: `Listing.alone`, `Launching.alone`.
-/

namespace VmLaunch

/-- Do the next action of a routine in a session. -/
def Routine.stepIn {α : Type} (env : Environment) (routine : Routine α) (session : Session) :
    Routine α × Session :=
  let (rest, world) := routine.step env session.world
  (rest, { session with world := world })

namespace Launch

/-- Steps that nobody comes between lead to the end of what remains. -/
def Completes {σ α : Type} (step : σ → Session → σ × Session) (remains : σ → Work Session α)
    (ended : Outcome α → σ) (state : σ) (session : Session) : Prop :=
  ∃ count, (fun now : σ × Session => step now.1 now.2)^[count] (state, session) =
    (ended (remains state session).1, (remains state session).2)

/-- Steps complete what remains when the first one leaves the same to remain, and the others complete
that. -/
theorem Completes.of_step {σ α : Type} {step : σ → Session → σ × Session}
    {remains : σ → Work Session α} {ended : Outcome α → σ} {state : σ} {session : Session}
    (same : remains (step state session).1 (step state session).2 = remains state session)
    (after : Completes step remains ended (step state session).1 (step state session).2) :
    Completes step remains ended state session := by
  obtain ⟨count, ends⟩ := after
  rw [same] at ends
  exact ⟨count + 1, ends⟩

/-- A phase that does the actions of a routine leads to the end of the routine. -/
theorem Completes.of_routine {σ α β : Type} {step : σ → Session → σ × Session}
    {remains : σ → Work Session α} {ended : Outcome α → σ} (env : Environment)
    (phase : Routine β → σ)
    (same : ∀ state session,
      remains (step state session).1 (step state session).2 = remains state session)
    (acts : ∀ rest session, (∃ outcome, rest = .ended outcome) ∨
      step (phase rest) session = (rest.stepIn env session).map phase id)
    (after : ∀ outcome session, Completes step remains ended (phase (.ended outcome)) session)
    (rest : Routine β) (session : Session) :
    Completes step remains ended (phase rest) session := by
  have onward {rest : Routine β} {session : Session} (going : ¬ ∃ outcome, rest = .ended outcome)
      (next : Completes step remains ended (phase (rest.stepIn env session).1)
        (rest.stepIn env session).2) : Completes step remains ended (phase rest) session := by
    refine .of_step (same _ _) ?_
    rw [(acts rest session).resolve_left going]
    exact next
  induction rest generalizing session with
  | ended outcome => exact after outcome session
  | asks call next inductionHypothesis => exact onward (by simp) (inductionHypothesis _ _)
  | sleeps d next inductionHypothesis => exact onward (by simp) (inductionHypothesis _)
  | looks next inductionHypothesis => exact onward (by simp) (inductionHypothesis _ _)

/-- A listing of the firewall rules of a project on its way. It walks the rules when they are not
stored. -/
inductive Listing where
  | begun
  | walking (rest : Routine (List ListedRule))
  | ended (outcome : Outcome (List ListedRule))

namespace Listing

variable (env : Environment) (project : String)

/-- The walk of a listing. -/
def walk : Routine (List ListedRule) :=
  Page.walkRoutine ListedRule.decode (globalParent project "firewalls") env.patience none []

/-- What a listing does next. -/
def step : Listing → Session → Listing × Session
  | begun, session =>
    let looked := Shelf.firewalls.afterLookup (Catalog.firewallsKey project) session
    match session.catalog.knownRules session.world.now project with
    | some rules => (ended (.ok rules), looked)
    | none => (walking (walk env project), looked)
  | walking (.ended (.ok rules)), session =>
    (ended (.ok rules), Shelf.firewalls.afterStore (Catalog.firewallsKey project) rules session)
  | walking (.ended (.error cause)), session => (ended (.error cause), session)
  | walking (.ended .unfinished), session => (ended .unfinished, session)
  | walking rest, session =>
    let (rest, session) := rest.stepIn env session
    (walking rest, session)
  | ended outcome, session => (ended outcome, session)

/-- What a listing has left to do. -/
def remains : Listing → Work Session (List ListedRule)
  | begun => Catalog.listFirewalls env project
  | walking rest => do
    let rules ← (rest.run env).inSession
    Shelf.firewalls.store (Catalog.firewallsKey project) rules
    return rules
  | ended outcome => fun session => (outcome, session)

/-- A step of a listing does a part of what remains of it, and leaves the rest. -/
theorem remains_step (listing : Listing) (session : Session) :
    (listing.step env project session).1.remains env project (listing.step env project session).2 =
      listing.remains env project session := by
  cases listing with
  | begun =>
    have looked : Shelf.firewalls.lookup (Catalog.firewallsKey project) session =
        (.ok (session.catalog.knownRules session.world.now project),
          Shelf.firewalls.afterLookup (Catalog.firewallsKey project) session) :=
      Shelf.lookup_eq _ _ _
    have reads : Catalog.listFirewalls env project = Shelf.firewalls.through _ _ := rfl
    cases known : session.catalog.knownRules session.world.now project with
    | some rules =>
      rw [known] at looked
      simp only [step, known, remains, reads, Shelf.through]
      rw [Work.bind_of_ok looked]
      rfl
    | none =>
      rw [known] at looked
      simp only [step, known, remains, walk, Page.run_walkRoutine, reads, Shelf.through]
      rw [Work.bind_of_ok looked]
      rfl
  | walking rest =>
    cases rest with
    | ended outcome => cases outcome <;> rfl
    | _ => rfl
  | ended outcome => rfl

/-- A listing that is alone does what it has left to do. -/
theorem alone (listing : Listing) (session : Session) :
    Completes (step env project) (remains env project) ended listing session := by
  have walks (rest : Routine (List ListedRule)) (session : Session) :
      Completes (step env project) (remains env project) ended (walking rest) session := by
    refine .of_routine env walking (remains_step env project) (fun rest session => ?_)
      (fun outcome session => .of_step (remains_step env project _ _) ?_) rest session
    · cases rest with
      | ended outcome => exact .inl ⟨outcome, rfl⟩
      | _ => exact .inr rfl
    · cases outcome <;> exact ⟨0, rfl⟩
  cases listing with
  | begun =>
    refine .of_step (remains_step env project _ _) ?_
    simp only [step]
    cases session.catalog.knownRules session.world.now project with
    | some rules => exact ⟨0, rfl⟩
    | none => exact walks _ _
  | walking rest => exact walks rest session
  | ended outcome => exact ⟨0, rfl⟩

end Listing

/-- What a run is asked to do. -/
structure Order where
  polling : Polling
  signal : Signal
  spec : MachineSpec

/-- A run on its way. -/
inductive Launching where
  | preparing (rest : Routine Prepared)
  | creating (run : Prepared) (tags : List String) (rules : List FirewallRule)
  | reporting (rest : Routine InstanceSummary)
  | ended (outcome : Outcome InstanceSummary)

namespace Launching

variable (env : Environment) (order : Order)

/-- A run before its first step. -/
def begun : Launching :=
  preparing (prepareRoutine env order.spec)

/-- What a run reports after its rules. -/
def report (run : Prepared) (tags : List String) : Routine InstanceSummary :=
  reportRoutine env order.polling order.signal order.spec run.scope
    (InsertRequest.assemble order.spec run.scope run.resolved tags)

/-- What a run does next. -/
def step : Launching → Session → Launching × Session
  | preparing (.ended (.ok run)), session => (creating run [] run.rules, session)
  | preparing (.ended (.error cause)), session => (ended (.error cause), session)
  | preparing (.ended .unfinished), session => (ended .unfinished, session)
  | preparing rest, session =>
    let (rest, session) := rest.stepIn env session
    (preparing rest, session)
  | creating run tags (rule :: rules), session =>
    match (Firewall.create env run.scope.project run.network rule).inSession session with
    | (.ok (), session) => (creating run (Firewall.addTag tags rule.targetTag) rules, session)
    | (.error cause, session) => (ended (.error cause), session)
    | (.unfinished, session) => (ended .unfinished, session)
  | creating run tags [], session =>
    (reporting (report env order run tags), (forgetRules run.scope.project run.rules session).2)
  | reporting (.ended outcome), session => (ended outcome, session)
  | reporting rest, session =>
    let (rest, session) := rest.stepIn env session
    (reporting rest, session)
  | ended outcome, session => (ended outcome, session)

/-- What a run has left to do. -/
def remains : Launching → Work Session InstanceSummary
  | preparing rest => do
    let run ← (rest.run env).inSession
    run.launch env order.polling order.signal order.spec
  | creating run tags rules => do
    let tags ← (Firewall.createAll env run.scope.project run.network tags rules).inSession
    forgetRules run.scope.project run.rules
    (insertAndReport env order.polling order.signal order.spec run.scope
      (InsertRequest.assemble order.spec run.scope run.resolved tags)).inSession
  | reporting rest => (rest.run env).inSession
  | ended outcome => fun session => (outcome, session)

/-- A step of a run does a part of what remains of it, and leaves the rest. -/
theorem remains_step (launching : Launching) (session : Session) :
    (launching.step env order session).1.remains env order (launching.step env order session).2 =
      launching.remains env order session := by
  cases launching with
  | preparing rest =>
    cases rest with
    | ended outcome => cases outcome <;> rfl
    | _ => rfl
  | creating run tags rules =>
    cases rules with
    | nil =>
      have forgets := forgetRules_apply run.scope.project run.rules session
      have created : (Firewall.createAll env run.scope.project run.network tags []).inSession
          session = (.ok tags, session) := rfl
      simp only [step, remains, report, run_reportRoutine]
      rw [Work.bind_of_ok created, Work.bind_of_ok forgets, forgets]
    | cons rule rules =>
      rcases created : Firewall.create env run.scope.project run.network rule session.world
        with ⟨outcome, later⟩
      have made := Work.inSession_of_eq created
      cases outcome with
      | ok value =>
        have goesOn : Firewall.createAll env run.scope.project run.network tags (rule :: rules)
            session.world = Firewall.createAll env run.scope.project run.network
              (Firewall.addTag tags rule.targetTag) rules later := Work.bind_of_ok created
        simp only [step, remains, made]
        refine Work.bind_congr_at ?_
        simp only [Work.inSession, goesOn]
      | error cause =>
        have stops : Firewall.createAll env run.scope.project run.network tags (rule :: rules)
            session.world = (.error cause, later) := Work.bind_of_error created
        simp only [step, remains, made]
        exact (Work.bind_of_error (Work.inSession_of_eq stops)).symm
      | unfinished =>
        have stops : Firewall.createAll env run.scope.project run.network tags (rule :: rules)
            session.world = (.unfinished, later) := Work.bind_of_unfinished created
        simp only [step, remains, made]
        exact (Work.bind_of_unfinished (Work.inSession_of_eq stops)).symm
  | reporting rest =>
    cases rest with
    | ended outcome => cases outcome <;> rfl
    | _ => rfl
  | ended outcome => rfl

/-- A run that has not begun has all of it left to do. -/
theorem remains_begun :
    (begun env order).remains env order =
      provision env order.polling order.signal order.spec := by
  simp only [begun, remains, run_prepareRoutine]
  rfl

/-- A run that is alone does what it has left to do. -/
theorem alone (launching : Launching) (session : Session) :
    Completes (step env order) (remains env order) ended launching session := by
  have reports (rest : Routine InstanceSummary) (session : Session) :
      Completes (step env order) (remains env order) ended (reporting rest) session := by
    refine .of_routine env reporting (remains_step env order) (fun rest session => ?_)
      (fun outcome session => .of_step (remains_step env order _ _) ⟨0, rfl⟩) rest session
    cases rest with
    | ended outcome => exact .inl ⟨outcome, rfl⟩
    | _ => exact .inr rfl
  have creates (run : Prepared) (rules : List FirewallRule) (tags : List String)
      (session : Session) :
      Completes (step env order) (remains env order) ended (creating run tags rules) session := by
    induction rules generalizing tags session with
    | nil => exact .of_step (remains_step env order _ _) (reports _ _)
    | cons rule rules inductionHypothesis =>
      refine .of_step (remains_step env order _ _) ?_
      simp only [step]
      split
      · exact inductionHypothesis _ _
      · exact ⟨0, rfl⟩
      · exact ⟨0, rfl⟩
  cases launching with
  | preparing rest =>
    refine .of_routine env preparing (remains_step env order) (fun rest session => ?_)
      (fun outcome session => .of_step (remains_step env order _ _) ?_) rest session
    · cases rest with
      | ended outcome => exact .inl ⟨outcome, rfl⟩
      | _ => exact .inr rfl
    · cases outcome with
      | ok run => exact creates _ _ _ _
      | error cause => exact ⟨0, rfl⟩
      | unfinished => exact ⟨0, rfl⟩
  | creating run tags rules => exact creates run rules tags session
  | reporting rest => exact reports rest session
  | ended outcome => exact ⟨0, rfl⟩

end Launching

/-- A call that shares a catalog with others. -/
inductive Caller where
  | lists (project : String) (listing : Listing)
  | launches (order : Order) (launching : Launching)

/-- What a caller does next. -/
def Caller.step (env : Environment) : Caller → Session → Caller × Session
  | lists project listing, session =>
    ((listing.step env project session).map (lists project) id)
  | launches order launching, session =>
    ((launching.step env order session).map (launches order) id)

/-- Whether a caller has done nothing yet. -/
def Caller.Begun (env : Environment) : Caller → Prop
  | lists _ listing => listing = .begun
  | launches order launching => launching = .begun env order

/-- The firewall rules of a project that are stored, live or not. -/
def storedRules (project : String) (session : Session) : Option (Stored (List ListedRule)) :=
  session.catalog.firewalls.stored? (Catalog.firewallsKey project)

/-- A later session that has forgotten no exchange and stored no firewall rules of a project. -/
structure StoresNone (project : String) (before after : Session) : Prop where
  history : before.world.history <+: after.world.history
  stored : ∀ entry, storedRules project after = some entry →
    storedRules project before = some entry

section Effects

variable {env : Environment} {project other : String} {session : Session}

/-- Work on the world alone stores no rules. -/
theorem StoresNone.of_world {world : World} (grown : session.world.history <+: world.history) :
    StoresNone project session { session with world := world } :=
  ⟨grown, fun _ found => found⟩

/-- Where nothing is done no rules are stored. -/
theorem StoresNone.refl : StoresNone project session session :=
  .of_world List.prefix_rfl

/-- A step of a routine stores no rules. -/
theorem storesNone_stepIn {α : Type} (env : Environment) (project : String) (routine : Routine α)
    (session : Session) : StoresNone project session (routine.stepIn env session).2 := by
  obtain ⟨made, added, -⟩ := routine.exists_leads_step env session.world
  exact .of_world (added ▸ List.prefix_append _ _)

/-- To look for the rules of any project stores none. -/
theorem storesNone_afterLookup (project other : String) (session : Session) :
    StoresNone project session
      (Shelf.firewalls.afterLookup (Catalog.firewallsKey other) session) :=
  ⟨List.prefix_rfl, fun _ found => Cache.stored?_of_evict found⟩

/-- To store the rules of one project stores none of another. -/
theorem storesNone_afterStore (apart : project ≠ other) (rules : List ListedRule) :
    StoresNone project session
      (Shelf.firewalls.afterStore (Catalog.firewallsKey other) rules session) := by
  refine ⟨List.prefix_rfl, fun entry found => ?_⟩
  have keys : Catalog.firewallsKey project ≠ Catalog.firewallsKey other :=
    fun same => apart (Catalog.firewallsKey_injective same)
  exact (Cache.stored?_set_of_ne keys).symm.trans found

/-- To drop rules stores none. -/
theorem storesNone_forgetRules (rules : List FirewallRule) :
    StoresNone project session (forgetRules other rules session).2 := by
  rw [forgetRules_apply]
  refine ⟨List.prefix_rfl, fun entry found => ?_⟩
  by_cases ruleless : rules.isEmpty
  · simpa [storedRules, ruleless] using found
  · simp only [storedRules, ruleless] at found
    exact Cache.stored?_of_erase found

/-- To create a rule stores none. -/
theorem storesNone_create (network : String) (rule : FirewallRule) :
    StoresNone project session
      ((Firewall.create env other network rule).inSession session).2 := by
  have created := Work.ask_apply env (Firewall.createCall other network rule) (ruleJudge rule)
    session.world
  rw [← create_eq_ask] at created
  rw [Work.inSession_of_eq created]
  exact .of_world (List.prefix_append _ _)

/-- A run stores no firewall rules. -/
theorem Launching.step_stores (env : Environment) (project : String) (order : Order)
    (launching : Launching) (session : Session) :
    StoresNone project session (launching.step env order session).2 := by
  cases launching with
  | preparing rest =>
    have moved := storesNone_stepIn env project rest session
    cases rest with
    | ended outcome => cases outcome <;> exact .refl
    | _ => exact moved
  | creating run tags rules =>
    cases rules with
    | nil => exact storesNone_forgetRules run.rules
    | cons rule rules =>
      have created : StoresNone project session
          ((Firewall.create env run.scope.project run.network rule).inSession session).2 :=
        storesNone_create run.network rule
      simp only [step]
      split <;> simp_all
  | reporting rest =>
    have moved := storesNone_stepIn env project rest session
    cases rest with
    | ended outcome => exact .refl
    | _ => exact moved
  | ended outcome => exact .refl

/-- A listing stores the firewall rules of its project when its walk has ended with them. -/
theorem Listing.step_stores (env : Environment) (project other : String) (listing : Listing)
    (session : Session) :
    StoresNone project session (listing.step env other session).2 ∨
      ∃ rules, project = other ∧ listing = .walking (.ended (.ok rules)) := by
  cases listing with
  | begun =>
    have looked := storesNone_afterLookup project other session
    simp only [step]
    cases session.catalog.knownRules session.world.now other <;> exact .inl looked
  | walking rest =>
    have moved := storesNone_stepIn env project rest session
    cases rest with
    | ended outcome =>
      cases outcome with
      | ok rules =>
        by_cases same : project = other
        · exact .inr ⟨rules, same, rfl⟩
        · exact .inl (storesNone_afterStore same rules)
      | error cause => exact .inl .refl
      | unfinished => exact .inl .refl
    | _ => exact .inl moved
  | ended outcome => exact .inl .refl

/-- A step stores no firewall rules of a project but those of a walk that has ended. -/
theorem Caller.step_stores (env : Environment) (project : String) (caller : Caller)
    (session : Session) :
    StoresNone project session (caller.step env session).2 ∨
      ∃ rules, caller = .lists project (.walking (.ended (.ok rules))) := by
  cases caller with
  | launches order launching => exact .inl (launching.step_stores env project order session)
  | lists other listing =>
    rcases listing.step_stores env project other session with none | ⟨rules, rfl, rfl⟩
    · exact .inl none
    · exact .inr ⟨rules, rfl⟩

/-- A walk that goes on begins or was under way. -/
theorem Caller.step_walking {caller : Caller} {rest : Routine (List ListedRule)}
    (walking : (caller.step env session).1 = .lists project (.walking rest)) :
    (caller = .lists project .begun ∧ rest = Listing.walk env project) ∨
      ∃ before, caller = .lists project (.walking before) ∧
        rest = (before.step env session.world).1 ∧
        (caller.step env session).2.world = (before.step env session.world).2 := by
  cases caller with
  | launches order launching => cases walking
  | lists other listing =>
    obtain ⟨rfl, onWay⟩ : other = project ∧ (listing.step env other session).1 = .walking rest :=
      Caller.lists.inj walking
    cases listing with
    | begun =>
      simp only [Listing.step] at onWay
      cases known : session.catalog.knownRules session.world.now other with
      | some rules =>
        rw [known] at onWay
        cases onWay
      | none =>
        rw [known] at onWay
        cases onWay
        exact .inl ⟨rfl, rfl⟩
    | walking before =>
      refine .inr ⟨before, rfl, ?_⟩
      cases before with
      | ended outcome => cases outcome <;> cases onWay
      | _ =>
        cases onWay
        exact ⟨rfl, rfl⟩
    | ended outcome => cases onWay

/-- A listing that has ended with rules found them stored or walked them. -/
theorem Caller.step_listed {caller : Caller} {rules : List ListedRule}
    (listed : (caller.step env session).1 = .lists project (.ended (.ok rules))) :
    caller = .lists project (.ended (.ok rules)) ∨
      caller = .lists project (.walking (.ended (.ok rules))) ∨
      session.catalog.knownRules session.world.now project = some rules := by
  cases caller with
  | launches order launching => cases listed
  | lists other listing =>
    obtain ⟨rfl, done⟩ : other = project ∧
        (listing.step env other session).1 = .ended (.ok rules) := Caller.lists.inj listed
    cases listing with
    | begun =>
      simp only [Listing.step] at done
      cases known : session.catalog.knownRules session.world.now other with
      | some found =>
        rw [known] at done
        cases done
        exact .inr (.inr rfl)
      | none =>
        rw [known] at done
        cases done
    | walking before =>
      cases before with
      | ended outcome =>
        cases outcome <;> cases done
        exact .inr (.inl rfl)
      | _ => cases done
    | ended outcome =>
      cases done
      exact .inl rfl

end Effects

end Launch

end VmLaunch
