import VmLaunch.Proofs.Launch.Passage
import VmLaunch.Proofs.Launch.Segment

/-!
# The creation of firewall rules

`Creating` follows the rules of a run in turn, with one constructor for each way on.
-/

namespace VmLaunch.Launch

/-- The step that creates a rule. -/
def ruleStep (project network : String) (index : Nat) (rule : FirewallRule) (world : World) :
    Step :=
  ⟨.rule index, world, Firewall.createCall project network rule⟩

/-- Rules are created in turn, the first of them with the given index, until one is
neither created nor there. -/
inductive Creating (env : Environment) (project network : String) :
    Nat → List String → List FirewallRule → List Step → Outcome (List String) → Prop where
  | done {index tags} : Creating env project network index tags [] [] (.ok tags)
  | refused {index tags rule rest world fault}
      (answered : (ruleStep project network index rule world).answer env = .error fault)
      (foreign : Firewall.alreadyExists fault = false) :
      Creating env project network index tags (rule :: rest)
        [ruleStep project network index rule world]
        (.error (.provider (.createRule rule.name) fault))
  | created {index tags rule rest world steps outcome}
      (accepted : (ruleStep project network index rule world).Accepted env)
      (after : Creating env project network (index + 1)
        (Firewall.addTag tags rule.targetTag) rest steps outcome) :
      Creating env project network index tags (rule :: rest)
        (ruleStep project network index rule world :: steps) outcome

/-- What is made of an answer to the creation of a rule. -/
def ruleJudge (rule : FirewallRule) : Answer → Except LaunchError Unit
  | .ok _ => .ok ()
  | .error fault =>
    if Firewall.alreadyExists fault then .ok ()
    else .error (.provider (.createRule rule.name) fault)

/-- A rule is created by one call, and what is made of its answer. -/
theorem create_eq_ask (env : Environment) (project network : String)
    (rule : FirewallRule) :
    Firewall.create env project network rule =
      Work.ask env (Firewall.createCall project network rule) (ruleJudge rule) := by
  funext world
  simp only [Firewall.create, Work.ask, Environment.call, bind, Work.bind]
  cases (env.reply world (Firewall.createCall project network rule)).answer with
  | ok body => rfl
  | error fault =>
    by_cases known : Firewall.alreadyExists fault
    · simp [ruleJudge, known, Work.ofExcept, Pure.pure]
    · simp [ruleJudge, known, Work.ofExcept]

private theorem ruleJudge_ok {rule : FirewallRule} {answer : Answer} {value : Unit} {index : Nat}
    (judged : ruleJudge rule answer = .ok value) : (Stage.rule index).Accepts answer := by
  rintro fault rfl
  by_cases known : Firewall.alreadyExists fault
  · exact known
  · simp [ruleJudge, known] at judged

private theorem ruleJudge_error {rule : FirewallRule} {answer : Answer} {cause : LaunchError}
    (judged : ruleJudge rule answer = .error cause) :
    ∃ fault, answer = .error fault ∧ Firewall.alreadyExists fault = false ∧
      cause = .provider (.createRule rule.name) fault := by
  cases answer with
  | ok body => cases judged
  | error fault =>
    by_cases known : Firewall.alreadyExists fault
    · simp [ruleJudge, known] at judged
    · simp only [ruleJudge, known] at judged
      cases judged
      exact ⟨fault, rfl, by simpa using known, rfl⟩

/-- Rules are created one after the other, through the worlds of their steps. -/
theorem createAll_treads (env : Environment) (project network : String)
    (rules : List FirewallRule) (index : Nat) (tags : List String) :
    (Firewall.createAll env project network tags rules).Treads env
      (Creating env project network index tags rules) := by
  induction rules generalizing index tags with
  | nil => exact Work.treads_ofExcept (.ok tags) .done
  | cons rule rest inductionHypothesis =>
    unfold Firewall.createAll
    rw [create_eq_ask]
    refine ((Work.treads_ask env (.rule index) _ _).bind fun _ =>
      inductionHypothesis (index + 1) _).mono fun steps outcome way => ?_
    cases way with
    | passed entry after =>
      obtain ⟨world, rfl, ends⟩ := entry
      exact .created (ruleJudge_ok (Outcome.ofExcept_eq_ok ends.symm)) after
    | failed stop =>
      obtain ⟨world, rfl, ends⟩ := stop
      obtain ⟨fault, answered, foreign, rfl⟩ :=
        ruleJudge_error (Outcome.ofExcept_eq_error ends.symm)
      exact .refused answered foreign
    | unfinished stop =>
      obtain ⟨world, rfl, ends⟩ := stop
      exact absurd ends.symm Outcome.ofExcept_ne_unfinished

/-- Rules are created one after the other. -/
theorem createAll_follows (env : Environment) (project network : String)
    (rules : List FirewallRule) (index : Nat) (tags : List String) :
    (Firewall.createAll env project network tags rules).Follows (Step.exchange env)
      (Creating env project network index tags rules) :=
  (createAll_treads env project network rules index tags).follows

variable {env : Environment} {spec : MachineSpec} {scope : Scope}

/-- The steps of a creation are those of its rules and later ones. -/
theorem Creating.placed {project network : String} {index : Nat} {tags : List String}
    {rules : List FirewallRule} {steps : List Step} {outcome : Outcome (List String)}
    (creating : Creating env project network index tags rules steps outcome) :
    ∀ step ∈ steps, ∃ later, index ≤ later ∧ step.stage = .rule later := by
  induction creating with
  | done => simp
  | refused => simpa using ⟨_, Nat.le_refl _, rfl⟩
  | created _ _ inductionHypothesis =>
    refine List.forall_mem_cons.mpr ⟨⟨_, Nat.le_refl _, rfl⟩, fun step member => ?_⟩
    obtain ⟨later, bound, stage⟩ := inductionHypothesis step member
    exact ⟨later, by omega, stage⟩

/-- The steps that create rules stand between the lookups and the insert. -/
theorem Creating.segment {asks : Stage → Call → Prop} {project network : String} {index : Nat}
    {tags : List String} {rules : List FirewallRule} {steps : List Step}
    {outcome : Outcome (List String)}
    (creating : Creating env project network index tags rules steps outcome)
    (asked : ∀ (offset : Nat) rule, rules[offset]? = some rule →
      asks (.rule (index + offset)) (Firewall.createCall project network rule)) :
    Segment env asks 4 5 steps outcome := by
  induction creating with
  | done => exact Segment.nil _
  | refused => exact Segment.single (asked 0 _ rfl) (Nat.le_refl 4) (Nat.lt_succ_self 4) (by simp)
  | @created index tags rule rest world steps outcome accepted after inductionHypothesis =>
    refine Segment.cons (asked 0 rule rfl) accepted
      (inductionHypothesis fun offset rule found => ?_) (fun late member => ?_)
      (Nat.le_refl 4) (Nat.lt_succ_self 4) (Nat.le_refl 4)
    · have shifted := asked (offset + 1) rule found
      rwa [show index + (offset + 1) = index + 1 + offset by omega] at shifted
    · obtain ⟨later, bound, stage⟩ := after.placed late member
      rw [stage]
      exact bound

/-- Rules are created before the insert. -/
theorem Creating.earlier {project network : String} {index : Nat} {tags : List String}
    {created : Outcome (List String)}
    (creating : Creating env project network index tags rules steps created) :
    ∀ step ∈ steps, step.stage.rank < Stage.insert.rank := by
  intro step member
  obtain ⟨later, -, stage⟩ := creating.placed step member
  rw [stage]
  exact Nat.lt_succ_self 4

/-- The creation of rules fails with an error of the provider. -/
theorem Creating.blames {project network : String} {index : Nat} {tags : List String}
    {rules : List FirewallRule} {steps : List Step} {outcome : Outcome (List String)}
    (creating : Creating env project network index tags rules steps outcome) :
    ∀ cause, outcome = .error cause → ∃ task fault, cause = .provider task fault := by
  induction creating with
  | done => exact fun cause failed => nomatch failed
  | refused =>
    intro cause failed
    cases failed
    exact ⟨_, _, rfl⟩
  | created _ _ inductionHypothesis => exact inductionHypothesis

/-- Rules that are all there yield their tags, each once. -/
theorem Creating.tags {project network : String} {index : Nat} {tags : List String}
    {rules : List FirewallRule} {steps : List Step} {outcome : Outcome (List String)}
    (creating : Creating env project network index tags rules steps outcome) :
    ∀ final, outcome = .ok final →
      final = (rules.map FirewallRule.targetTag).foldl Firewall.addTag tags := by
  induction creating with
  | done =>
    intro final passed
    cases passed
    rfl
  | refused => exact fun final passed => nomatch passed
  | created _ _ inductionHypothesis => exact inductionHypothesis

/-- Rules that could be read begin with the rule of the first text. -/
theorem ofTexts_cons {text : Spec.RuleText} {texts : List Spec.RuleText}
    {rules : List FirewallRule} (complete : FirewallRule.ofTexts (text :: texts) = .ok rules) :
    ∃ head tail, FirewallRule.ofText text = .ok head ∧ FirewallRule.ofTexts texts = .ok tail ∧
      rules = head :: tail := by
  unfold FirewallRule.ofTexts at complete
  cases first : FirewallRule.ofText text with
  | error cause => simp [first] at complete
  | ok head =>
    cases others : FirewallRule.ofTexts texts with
    | error cause => simp [first, others, Except.map] at complete
    | ok tail =>
      simp only [first, others, Except.map] at complete
      cases complete
      exact ⟨head, tail, rfl, rfl, rfl⟩

/-- Every rule of a run comes from the text in its place. -/
theorem rules_getElem? {texts : List Spec.RuleText} {rules : List FirewallRule}
    (complete : FirewallRule.ofTexts texts = .ok rules) {index : Nat} {rule : FirewallRule}
    (found : rules[index]? = some rule) :
    ∃ text, texts[index]? = some text ∧ FirewallRule.ofText text = .ok rule := by
  induction texts generalizing rules index with
  | nil =>
    cases complete
    simp at found
  | cons text rest inductionHypothesis =>
    obtain ⟨head, tail, first, others, rfl⟩ := ofTexts_cons complete
    cases index with
    | zero =>
      cases found
      exact ⟨text, rfl, first⟩
    | succ index => exact inductionHypothesis others found

/-- The rules of a spec are those of its texts. -/
theorem ofTexts_of_rules {rules : List FirewallRule} (complete : spec.rules = .ok rules) :
    FirewallRule.ofTexts spec.networking.firewallRules = .ok rules := by
  unfold MachineSpec.rules at complete
  cases read : FirewallRule.ofTexts spec.networking.firewallRules with
  | error cause =>
    rw [read] at complete
    cases complete
  | ok all =>
    rw [read] at complete
    cases complete
    rfl

/-- The calls that create the rules of a spec are calls of their stages. -/
theorem createCall_asked {rules : List FirewallRule} (complete : spec.rules = .ok rules)
    (network : String) (index : Nat) (rule : FirewallRule) (found : rules[index]? = some rule) :
    (Stage.rule index).Asks spec scope (Firewall.createCall scope.project network rule) := by
  obtain ⟨text, placed, read⟩ := rules_getElem? (ofTexts_of_rules complete) found
  exact ⟨text, rule, network, placed, read, rfl⟩

end VmLaunch.Launch
