import VmLaunch.Proofs.Catalog.Anew
import VmLaunch.Proofs.Catalog.Distinct
import VmLaunch.Proofs.Launch.Course
import VmLaunch.Proofs.Launch.DryRun

/-!
# Listings after a launch

A run that has created its rules drops the stored firewall rules of its project, so that the
next listing walks them anew. `Aftermath` says what a run leaves of the catalog: a run whose
rules are not all there ends before it drops anything.
-/

namespace VmLaunch.Launch

/-- Whether a call creates a firewall rule of a project. -/
def IsRuleCall (project : String) (call : Call) : Prop :=
  ∃ rule, call = .post (globalParent project "firewalls") rule

/-- A rule that the provider has created. -/
def RuleAccepted (project : String) (exchange : Exchange) : Prop :=
  IsRuleCall project exchange.call ∧ ∃ body, exchange.answer = .ok body

/-- A rule that the provider has neither created nor had. -/
def RuleRejected (project : String) (exchange : Exchange) : Prop :=
  IsRuleCall project exchange.call ∧
    ∃ fault, exchange.answer = .error fault ∧ Firewall.alreadyExists fault = false

section Decidable

variable (project : String)

instance (call : Call) : Decidable (IsRuleCall project call) :=
  decidable_of_iff (postsTo (globalParent project "firewalls") call = true)
    ⟨exists_body_of_postsTo, by rintro ⟨rule, rfl⟩; exact beq_self_eq_true _⟩

instance (answer : Answer) : Decidable (∃ body, answer = .ok body) :=
  match answer with
  | .ok body => .isTrue ⟨body, rfl⟩
  | .error _ => .isFalse nofun

instance (answer : Answer) :
    Decidable (∃ fault, answer = .error fault ∧ Firewall.alreadyExists fault = false) :=
  match answer with
  | .ok _ => .isFalse nofun
  | .error fault => decidable_of_iff (Firewall.alreadyExists fault = false)
      ⟨fun foreign => ⟨fault, rfl, foreign⟩, fun ⟨_, same, foreign⟩ => by cases same; exact foreign⟩

instance (exchange : Exchange) : Decidable (RuleAccepted project exchange) :=
  inferInstanceAs (Decidable (_ ∧ _))

instance (exchange : Exchange) : Decidable (RuleRejected project exchange) :=
  inferInstanceAs (Decidable (_ ∧ _))

end Decidable

/-- What the exchanges of a run leave of the catalog, and how the run ends if rules are
missing. -/
inductive Aftermath (project : String) (before : Catalog) :
    List Exchange → Outcome InstanceSummary → Catalog → Prop where
  | untouched {made outcome} (quiet : ∀ exchange ∈ made, ¬ IsRuleCall project exchange.call) :
      Aftermath project before made outcome before
  | broken {made name fault} (rejected : ∃ exchange ∈ made, RuleRejected project exchange) :
      Aftermath project before made (.error (.provider (.createRule name) fault)) before
  | forgotten {made outcome} (complete : ∀ exchange ∈ made, ¬ RuleRejected project exchange) :
      Aftermath project before made outcome (before.withoutRules project)

variable {env : Environment} {spec : MachineSpec} {scope : Scope} {project : String}

/-- A part of a run that lies before its rules or after them creates none. -/
theorem Segment.quiet {α : Type} {low high : Nat} {steps : List Step} {outcome : Outcome α}
    (segment : Segment env (fun stage => stage.Asks spec scope) low high steps outcome)
    (beside : high ≤ (Stage.rule 0).rank ∨ (Stage.rule 0).rank < low) :
    ∀ exchange ∈ steps.map (Step.exchange env), ¬ IsRuleCall scope.project exchange.call := by
  refine List.forall_mem_map.mpr fun step member => ?_
  rintro ⟨rule, call⟩
  have asks := segment.asked step member
  have place := segment.placed step member
  rw [show step.call = _ from call] at asks
  obtain ⟨index, stage⟩ := Stage.eq_rule_of_asks asks
  rw [stage] at place
  have same : (Stage.rule index).rank = (Stage.rule 0).rank := rfl
  omega

/-- A creation that fails has met a rule that the provider rejects. -/
theorem Creating.rejected {network : String} {index : Nat} {tags : List String}
    {rules : List FirewallRule} {steps : List Step} {outcome : Outcome (List String)}
    (creating : Creating env project network index tags rules steps outcome) :
    ∀ cause, outcome = .error cause →
      (∃ name fault, cause = .provider (.createRule name) fault) ∧
        ∃ step ∈ steps, RuleRejected project (step.exchange env) := by
  induction creating with
  | done => exact nofun
  | refused answered foreign =>
    rintro cause ⟨⟩
    exact ⟨⟨_, _, rfl⟩, _, List.mem_singleton_self _, ⟨_, rfl⟩, _, answered, foreign⟩
  | created accepted after inductionHypothesis =>
    intro cause failed
    obtain ⟨blamed, step, member, rejected⟩ := inductionHypothesis cause failed
    exact ⟨blamed, step, List.mem_cons_of_mem _ member, rejected⟩

/-- A creation that passes has met none. -/
theorem Creating.complete {network : String} {index : Nat} {tags : List String}
    {rules : List FirewallRule} {steps : List Step} {outcome : Outcome (List String)}
    (creating : Creating env project network index tags rules steps outcome) :
    ∀ final, outcome = .ok final →
      ∀ step ∈ steps, ¬ RuleRejected project (step.exchange env) := by
  induction creating with
  | done => simp
  | refused => exact nofun
  | created accepted after inductionHypothesis =>
    intro final passed
    refine List.forall_mem_cons.mpr ⟨?_, inductionHypothesis final passed⟩
    rintro ⟨-, fault, answered, foreign⟩
    have known := accepted fault answered
    rw [foreign] at known
    cases known

/-- The creation of rules ends. -/
theorem Creating.ne_unfinished {network : String} {index : Nat} {tags : List String}
    {rules : List FirewallRule} {steps : List Step} {outcome : Outcome (List String)}
    (creating : Creating env project network index tags rules steps outcome) :
    outcome ≠ .unfinished := by
  induction creating with
  | done => exact nofun
  | refused => exact nofun
  | created _ _ inductionHypothesis => exact inductionHypothesis

/-- Where there are no rules nothing is created. -/
theorem Creating.steps_eq_nil {network : String} {index : Nat} {tags : List String}
    {steps : List Step} {outcome : Outcome (List String)}
    (creating : Creating env project network index tags [] steps outcome) : steps = [] := by
  cases creating
  rfl

/-- Exchanges before the first rule change nothing about the aftermath. -/
theorem Aftermath.prepend {before after : Catalog} {first made : List Exchange}
    {outcome : Outcome InstanceSummary} (aftermath : Aftermath project before made outcome after)
    (quiet : ∀ exchange ∈ first, ¬ IsRuleCall project exchange.call) :
    Aftermath project before (first ++ made) outcome after := by
  cases aftermath with
  | untouched later => exact .untouched (List.forall_mem_append.mpr ⟨quiet, later⟩)
  | broken rejected =>
    obtain ⟨exchange, member, rejected⟩ := rejected
    exact .broken ⟨exchange, List.mem_append_right _ member, rejected⟩
  | forgotten complete =>
    refine .forgotten (List.forall_mem_append.mpr ⟨fun exchange member rejected => ?_, complete⟩)
    exact quiet exchange member rejected.1

/-- A run after its lookups. -/
def Prepared.launch (env : Environment) (polling : Polling) (signal : Signal) (spec : MachineSpec)
    (run : Prepared) : Work Session InstanceSummary := do
  let tags ← (Firewall.ensure env run.scope.project run.network run.rules).inSession
  forgetRules run.scope.project run.rules
  let request := InsertRequest.assemble spec run.scope run.resolved tags
  (insertAndReport env polling signal spec run.scope request).inSession

/-- Rules are forgotten when there are any. -/
theorem forgetRules_apply (project : String) (rules : List FirewallRule) (session : Session) :
    forgetRules project rules session = (.ok (), { session with
      catalog :=
        if rules.isEmpty then session.catalog else session.catalog.withoutRules project }) := by
  unfold forgetRules
  split <;> rfl

/-- After its lookups a run creates its rules and drops the stored ones, or ends. -/
theorem Prepared.launch_aftermath (env : Environment) (polling : Polling) (signal : Signal)
    (spec : MachineSpec) (run : Prepared) (session : Session) :
    ∃ made, (run.launch env polling signal spec session).2.world.history =
        session.world.history ++ made ∧
      Aftermath run.scope.project session.catalog made
        (run.launch env polling signal spec session).1
        (run.launch env polling signal spec session).2.catalog := by
  obtain ⟨creations, added, creating⟩ :=
    createAll_follows env run.scope.project run.network run.rules 0 [] session.world
  rcases walked : Firewall.createAll env run.scope.project run.network [] run.rules session.world
    with ⟨outcome, later⟩
  have ensured : (Firewall.ensure env run.scope.project run.network run.rules).inSession session =
      (outcome, { session with world := later }) := Work.inSession_of_eq walked
  rw [walked] at added creating
  unfold launch
  cases outcome with
  | ok tags =>
    let request := InsertRequest.assemble spec run.scope run.resolved tags
    obtain ⟨rest, more, inserting⟩ :=
      insertAndReport_follows env polling signal spec run.scope request later
    have after := (inserting.segment rfl).quiet (.inr (Nat.lt_succ_self _))
    rcases inserted : insertAndReport env polling signal spec run.scope request later
      with ⟨outcome, final⟩
    rw [inserted] at more
    rw [Work.bind_of_ok ensured, Work.bind_of_ok (forgetRules_apply _ _ _),
      Work.inSession_of_eq inserted]
    have created : later.history = session.world.history ++ creations.map (Step.exchange env) :=
      added
    have ended : final.history = later.history ++ rest.map (Step.exchange env) := more
    refine ⟨creations.map (Step.exchange env) ++ rest.map (Step.exchange env), ?_, ?_⟩
    · rw [ended, created, List.append_assoc]
    · by_cases ruleless : run.rules.isEmpty
      · rw [List.isEmpty_iff.mp ruleless] at creating ⊢
        have silent : creations = [] := creating.steps_eq_nil
        subst silent
        exact .untouched after
      · rw [if_neg ruleless]
        refine .forgotten (List.forall_mem_append.mpr ⟨?_, fun exchange member rejected => ?_⟩)
        · exact List.forall_mem_map.mpr (creating.complete tags rfl)
        · exact after exchange member rejected.1
  | error cause =>
    obtain ⟨⟨name, fault, rfl⟩, step, member, rejected⟩ := creating.rejected cause rfl
    rw [Work.bind_of_error ensured]
    exact ⟨_, added, .broken ⟨_, List.mem_map_of_mem member, rejected⟩⟩
  | unfinished => exact absurd rfl creating.ne_unfinished

/-- A run leaves the catalog as its aftermath says. -/
theorem provision_aftermath (env : Environment) (polling : Polling) (signal : Signal)
    (spec : MachineSpec) (session : Session) :
    ∃ made, (provision env polling signal spec session).2.world.history =
        session.world.history ++ made ∧
      Aftermath (spec.scope env.project).project session.catalog made
        (provision env polling signal spec session).1
        (provision env polling signal spec session).2.catalog := by
  cases valid : spec.check with
  | error cause =>
    rw [provision_of_invalid env polling signal valid session]
    exact ⟨[], (List.append_nil _).symm, .untouched (by simp)⟩
  | ok value =>
    obtain ⟨-, rules, complete⟩ := rules_of_check valid
    obtain ⟨lookups, added, way⟩ := prepare_follows env valid complete session.world
    have quiet := (prepareCourse_segment way).quiet (.inl (Nat.le_refl _))
    have split : provision env polling signal spec =
        (prepare env spec).inSession >>= fun run => run.launch env polling signal spec := rfl
    rcases looked : prepare env spec session.world with ⟨outcome, later⟩
    have prepared := Work.inSession_of_eq looked
    rw [looked] at added way
    rw [split]
    cases outcome with
    | ok run =>
      obtain ⟨made, more, aftermath⟩ :=
        run.launch_aftermath env polling signal spec { session with world := later }
      obtain ⟨scope, -⟩ := prepareCourse_value way
      rw [scope] at aftermath
      rw [Work.bind_of_ok prepared]
      refine ⟨_, ?_, aftermath.prepend quiet⟩
      rw [more, show later.history = _ from added, List.append_assoc]
      rfl
    | error cause =>
      rw [Work.bind_of_error prepared]
      exact ⟨_, added, .untouched quiet⟩
    | unfinished =>
      rw [Work.bind_of_unfinished prepared]
      exact ⟨_, added, .untouched quiet⟩

/-- When the provider has created a rule in a run, the next listing of the rules of the project
walks them anew, unless the provider has rejected another rule of the run and the rules that
were known before it still live. Then these are the answer, and nobody is asked. -/
theorem provision_forgets (env : Environment) (polling : Polling) (signal : Signal)
    (spec : MachineSpec) (session later : Session) :
    let run := provision env polling signal spec
    let project := (spec.scope env.project).project
    (∃ exchange ∈ run.made session, RuleAccepted project exchange) →
      Catalog.Unasked env project (run session).2 later →
        (Catalog.ListsAnew env project later ↔
          (∀ exchange ∈ run.made session, ¬ RuleRejected project exchange) ∨
            session.catalog.knownRules later.world.now project = none) ∧
        ∀ exchange ∈ run.made session, RuleRejected project exchange →
          (∃ name fault, (run session).1 = .error (.provider (.createRule name) fault)) ∧
            ∀ rules, session.catalog.knownRules later.world.now project = some rules →
              (Catalog.listFirewalls env project later).1 = .ok rules ∧
                (Catalog.listFirewalls env project).made later = [] := by
  intro run project accepted unasked
  obtain ⟨made, added, aftermath⟩ := provision_aftermath env polling signal spec session
  have mades : run.made session = made := Work.made_eq added
  have known := unasked.knownRules later.world.now
  rw [mades] at accepted ⊢
  rw [Catalog.listsAnew_iff, known]
  change Aftermath project session.catalog made (run session).1 (run session).2.catalog at aftermath
  generalize (run session).1 = outcome at aftermath ⊢
  generalize (run session).2.catalog = after at aftermath known ⊢
  cases aftermath with
  | untouched quiet =>
    obtain ⟨exchange, member, isRule, -⟩ := accepted
    exact absurd isRule (quiet exchange member)
  | broken rejected =>
    refine ⟨⟨.inr, fun forgotten => ?_⟩, fun _ _ _ => ⟨⟨_, _, rfl⟩, fun rules found => ?_⟩⟩
    · obtain ⟨exchange, member, refused⟩ := rejected
      exact forgotten.resolve_left fun complete => complete exchange member refused
    · exact Catalog.listFirewalls_of_known (known.trans found)
  | forgotten complete =>
    have dropped := session.catalog.knownRules_withoutRules later.world.now project
    exact ⟨iff_of_true dropped (.inl complete),
      fun exchange member rejected => absurd rejected (complete exchange member)⟩

/-- A provider that creates one rule and forbids more, and that lists what it has created. -/
def guardedProvider : Environment where
  project := "demo"
  requestId _ := "id"
  reply world call :=
    let created := world.history.any fun exchange => exchange.call.isPost
    { answer :=
        match call with
        | .post _ _ =>
          if created then .error (.of "API request failed: 403 Forbidden") else promptAnswer call
        | _ => .ok (if created then Catalog.pageOf (.obj [("name", .str "plain")]) else .null) }
  pause := Pause.manual
  patience := 1

/-- A session that knows the rules of a project. -/
def knowingSession : Session :=
  (Catalog.listFirewalls guardedProvider "demo" (.start Catalog.defaultTtl)).2

/-- A session after a run that has created one of its two rules. -/
def brokenSession : Session :=
  (provision guardedProvider .standard .never taggedSpec knowingSession).2

/-- The tagged spec is for the project of its provider. -/
theorem taggedSpec_project : (taggedSpec.scope guardedProvider.project).project = "demo" := by
  decide +kernel

private theorem accepted_brokenSession :
    ∃ exchange ∈ (provision guardedProvider .standard .never taggedSpec).made knowingSession,
      RuleAccepted "demo" exchange := by
  decide +kernel

private theorem rejected_brokenSession :
    ∃ exchange ∈ (provision guardedProvider .standard .never taggedSpec).made knowingSession,
      RuleRejected "demo" exchange := by
  decide +kernel

/-- The rules from before a run hide the rule that it has created until they expire. -/
theorem provision_forgets_brokenSession :
    let late := { brokenSession with world := brokenSession.world.advance Catalog.defaultTtl }
    (Catalog.listFirewalls guardedProvider "demo" brokenSession).1 = .ok [] ∧
      (Catalog.listFirewalls guardedProvider "demo").made brokenSession = [] ∧
      Catalog.ListsAnew guardedProvider "demo" late := by
  intro late
  have known : knowingSession.catalog.knownRules brokenSession.world.now "demo" = some [] := by
    decide +kernel
  have expired : knowingSession.catalog.knownRules late.world.now "demo" = none := by
    decide +kernel
  have now := provision_forgets guardedProvider .standard .never taggedSpec knowingSession
    brokenSession
  have later := provision_forgets guardedProvider .standard .never taggedSpec knowingSession late
  simp only [taggedSpec_project] at now later
  obtain ⟨-, hidden⟩ := now accepted_brokenSession (.refl brokenSession)
  obtain ⟨anew, -⟩ := later accepted_brokenSession (.advanced (.refl brokenSession) _)
  obtain ⟨exchange, member, rejected⟩ := rejected_brokenSession
  obtain ⟨listed, silent⟩ := (hidden exchange member rejected).2 [] known
  exact ⟨listed, silent, anew.mpr (.inr expired)⟩

/-- A rule that the provider has created may be hidden from the next listing. -/
theorem not_always_listsAnew :
    ¬ ∀ (env : Environment) (polling : Polling) (signal : Signal) (spec : MachineSpec)
        (session later : Session),
      let run := provision env polling signal spec
      let project := (spec.scope env.project).project
      (∃ exchange ∈ run.made session, RuleAccepted project exchange) →
        Catalog.Unasked env project (run session).2 later →
          Catalog.ListsAnew env project later := by
  intro always
  have listed := always guardedProvider .standard .never taggedSpec knowingSession brokenSession
  simp only [taggedSpec_project] at listed
  have known : (brokenSession.catalog.knownRules brokenSession.world.now "demo").isSome = true := by
    decide +kernel
  rw [Catalog.listsAnew_iff.mp (listed accepted_brokenSession (.refl brokenSession))] at known
  cases known

end VmLaunch.Launch
