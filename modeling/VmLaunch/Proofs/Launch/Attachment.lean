import VmLaunch.Proofs.Json.Members
import VmLaunch.Proofs.Launch.Course
import VmLaunch.Proofs.Reference

/-!
# The networks of rules

A rule belongs on the network of the machine that it is for. The network of the rules that
name none is found before anything is created, the network of the interface when the insert is
composed. `Sought` says how the first is found; the second is a function of the spec, and the
two agree wherever the spec decides on a network.
-/

namespace VmLaunch.Launch

/-- The URL of a network: a path as it stands, a name below the networks of the project. -/
structure NetworkUrl (project network url : String) : Prop where
  path : '/' ∈ network.toList → url = network
  name : '/' ∉ network.toList →
    url = "projects/" ++ project ++ "/global/networks/" ++ Text.trim network

/-- The network of the first interface of a request. -/
def interfaceNetwork? (request : Json) : Option Json :=
  (((request.get? "networkInterfaces").bind Json.items?).bind List.head?).bind
    (Json.get? "network")

/-- Whatever a run inserts has its interface on a network. -/
def OnInterface (steps : List Step) (url : String) : Prop :=
  ∀ insert ∈ steps, insert.stage = .insert →
    ∃ path request, insert.call = .post path request ∧
      interfaceNetwork? request = some (.str url)

/-- The provider was asked about a subnetwork and has named its network. -/
def Reported (env : Environment) (scope : Scope) (steps : List Step)
    (subnetwork network : String) : Prop :=
  ∃ step ∈ steps, step.stage = .subnetwork ∧
    step.call = Lookup.subnetworkCall scope.project scope.region (Text.trim subnetwork) ∧
    ∃ body subnet, step.answer env = .ok body ∧ Subnetwork.decode body = some subnet ∧
      subnet.network = network

/-- The URL under which a rule belongs: of its own network, of the network of the spec, of
the network of the spec's subnetwork, or of the default network, whichever is given first. -/
inductive Attaches (env : Environment) (spec : MachineSpec) (scope : Scope) (steps : List Step)
    (text : Spec.RuleText) (url : String) : Prop where
  | own {network} (named : Text.given? text.network = some network)
      (qualified : NetworkUrl scope.project network url)
  | configured {network} (unnamed : Text.given? text.network = none)
      (given : Text.given? spec.networking.network = some network)
      (qualified : NetworkUrl scope.project network url) (shared : OnInterface steps url)
  | reported {subnetwork network} (unnamed : Text.given? text.network = none)
      (absent : Text.given? spec.networking.network = none)
      (given : Text.given? spec.networking.subnetwork = some subnetwork)
      (named : Reported env scope steps subnetwork network)
      (qualified : NetworkUrl scope.project network url)
  | standard (unnamed : Text.given? text.network = none)
      (absent : Text.given? spec.networking.network = none)
      (missing : Text.given? spec.networking.subnetwork = none)
      (standing : url = "projects/" ++ scope.project ++ "/global/networks/default")
      (shared : OnInterface steps url)

/-- The path of a network is the network's text when that is a path, else one that ends in it. -/
theorem networkUrl_networkPath (project network : String) :
    NetworkUrl project network (networkPath network project) where
  path := fun separated => qualify_of_mem separated _
  name := by
    intro plain
    have joined : "/global/" ++ "networks" ++ "/" = "/global/networks/" := by decide +kernel
    rw [networkPath, qualify_of_not_mem plain, globalParent, ← joined]
    simp only [String.append_assoc]

/-- The network of rules that name none, with the step that it is known from. -/
inductive Sought (env : Environment) (spec : MachineSpec) (scope : Scope)
    (rules : List FirewallRule) (steps : List Step) : String → Prop where
  | given {network} (given : Text.given? spec.networking.network = some network)
      (unasked : ∀ step ∈ steps, step.stage ≠ .subnetwork) :
      Sought env spec scope rules steps network
  | asked {subnetwork network} (absent : Text.given? spec.networking.network = none)
      (given : Text.given? spec.networking.subnetwork = some subnetwork)
      (needed : ∃ rule ∈ rules, rule.network = none)
      (reported : Reported env scope steps subnetwork network) :
      Sought env spec scope rules steps network
  | needless {subnetwork} (absent : Text.given? spec.networking.network = none)
      (given : Text.given? spec.networking.subnetwork = some subnetwork)
      (named : ∀ rule ∈ rules, rule.network ≠ none)
      (unasked : ∀ step ∈ steps, step.stage ≠ .subnetwork) :
      Sought env spec scope rules steps FirewallRule.defaultNetwork
  | standard (absent : Text.given? spec.networking.network = none)
      (missing : Text.given? spec.networking.subnetwork = none)
      (unasked : ∀ step ∈ steps, step.stage ≠ .subnetwork) :
      Sought env spec scope rules steps FirewallRule.defaultNetwork

variable {env : Environment} {spec : MachineSpec} {scope : Scope}

/-- A subnetwork that some steps report has been reported by more steps too. -/
theorem Reported.mono {front back : List Step} {subnetwork network : String}
    (reported : Reported env scope front subnetwork network)
    (within : ∀ step ∈ front, step ∈ back) : Reported env scope back subnetwork network := by
  obtain ⟨step, member, rest⟩ := reported
  exact ⟨step, within step member, rest⟩

/-- What was sought among some steps is sought among more, if these are of other stages. -/
theorem Sought.between {rules : List FirewallRule} {front steps back : List Step}
    {network : String} (sought : Sought env spec scope rules steps network)
    (before : ∀ step ∈ front, step.stage ≠ .subnetwork)
    (after : ∀ step ∈ back, step.stage ≠ .subnetwork) :
    Sought env spec scope rules (front ++ (steps ++ back)) network := by
  have unasked : (∀ step ∈ steps, step.stage ≠ .subnetwork) →
      ∀ step ∈ front ++ (steps ++ back), step.stage ≠ .subnetwork := by
    intro none_here
    exact List.forall_mem_append.mpr ⟨before, List.forall_mem_append.mpr ⟨none_here, after⟩⟩
  cases sought with
  | given given others => exact .given given (unasked others)
  | asked absent given needed reported =>
    exact .asked absent given needed (reported.mono fun step member => by simp [member])
  | needless absent given named others => exact .needless absent given named (unasked others)
  | standard absent missing others => exact .standard absent missing (unasked others)

/-- An answered inquiry about a subnetwork has its network from the provider. -/
theorem reported_of_course {steps : List Step} {subnetwork network : String}
    (way : (Lookup.networkInquiry scope.project scope.region subnetwork).course env
      (Step.mk .subnetwork) steps (.ok network)) :
    Reported env scope steps subnetwork network := by
  unfold Lookup.networkInquiry at way
  unfold Reported
  -- The call stays closed: what it asks for does not matter here.
  generalize Lookup.subnetworkCall scope.project scope.region (Text.trim subnetwork) = call at way ⊢
  obtain ⟨world, rfl, ends⟩ := way
  obtain ⟨body, answered, held, -⟩ :=
    Lookup.judge_eq_ok_iff.mp (Outcome.ofExcept_eq_ok ends.symm)
  obtain ⟨subnet, decoded, named⟩ := Option.map_eq_some_iff.mp held
  exact ⟨⟨.subnetwork, world, call⟩, List.mem_singleton_self _, rfl, rfl, body, subnet, answered,
    decoded, named⟩

/-- The course of the inquiry after the network of rules ends with what it sought. -/
theorem ruleNetwork_sought {rules : List FirewallRule} {steps : List Step} {network : String}
    (way : (ruleNetworkInquiry spec scope rules).course env (Step.mk .subnetwork) steps
      (.ok network)) :
    Sought env spec scope rules steps network := by
  unfold ruleNetworkInquiry at way
  cases given : Text.given? spec.networking.network with
  | some configured =>
    rw [given] at way
    obtain ⟨rfl, ends⟩ := way
    cases ends
    exact .given given (by simp)
  | none =>
    cases asked : Text.given? spec.networking.subnetwork with
    | none =>
      rw [given, asked] at way
      obtain ⟨rfl, ends⟩ := way
      cases ends
      exact .standard given asked (by simp)
    | some subnetwork =>
      by_cases needed : rules.any fun rule => rule.network.isNone
      · simp only [given, asked, needed, if_true] at way
        have some_unnamed : ∃ rule ∈ rules, rule.network = none := by simpa using needed
        exact .asked given asked some_unnamed (reported_of_course way)
      · simp only [given, asked, needed, if_false, Bool.false_eq_true] at way
        obtain ⟨rfl, ends⟩ := way
        cases ends
        have all_named : ∀ rule ∈ rules, rule.network ≠ none := by simpa using needed
        exact .needless given asked all_named (by simp)

/-- The lookups of a run end with the network that they sought. -/
theorem prepareCourse_sought {rules : List FirewallRule} {steps : List Step} {run : Prepared}
    (way : prepareCourse env spec scope rules steps (.ok run)) :
    Sought env spec scope rules steps run.network := by
  cases way with
  | @passed front _ resolved _ resolving after =>
    cases after with
    | @passed back _ network _ asking silent =>
      obtain ⟨rfl, same⟩ := silent
      cases same
      have earlier : ∀ step ∈ front, step.stage ≠ .subnetwork := by
        intro step member stage
        have place := ((resolveCourse_segment resolving).placed step member).2
        rw [stage] at place
        exact absurd place (by decide)
      exact (ruleNetwork_sought asking).between earlier (by simp)

/-- The steps that create rules send each with the network that was found for all. -/
theorem Creating.sends {project network : String} {rules : List FirewallRule} {steps : List Step}
    {outcome : Outcome (List String)}
    (creating : Creating env project network 0 [] rules steps outcome) :
    ∀ step ∈ steps, ∃ index rule, step.stage = .rule index ∧ rules[index]? = some rule ∧
      step.call = Firewall.createCall project network rule := by
  have segment : Segment env (fun stage call => ∃ index rule, stage = .rule index ∧
      rules[index]? = some rule ∧ call = Firewall.createCall project network rule) 4 5 steps
      outcome :=
    creating.segment fun index rule found => ⟨0 + index, rule, rfl, by rwa [Nat.zero_add], rfl⟩
  exact segment.asked

/-- A rule names the network that its text gives. -/
theorem network_ofText {text : Spec.RuleText} {rule : FirewallRule}
    (read : FirewallRule.ofText text = .ok rule) : rule.network = Text.given? text.network := by
  unfold FirewallRule.ofText at read
  repeat' split at read
  all_goals cases read
  rfl

/-- Rules keep the networks of their texts. -/
theorem networks_ofTexts {texts : List Spec.RuleText} {rules : List FirewallRule}
    (read : FirewallRule.ofTexts texts = .ok rules) :
    rules.map FirewallRule.network = texts.map fun text => Text.given? text.network := by
  induction texts generalizing rules with
  | nil =>
    cases read
    rfl
  | cons text rest inductionHypothesis =>
    obtain ⟨head, tail, first, others, rfl⟩ := ofTexts_cons read
    rw [List.map_cons, List.map_cons, network_ofText first, inductionHypothesis others]

/-- The interface of a request is on the network that its spec and scope call for. -/
theorem interfaceNetwork?_assemble (spec : MachineSpec) (scope : Scope) (resolved : Resolved)
    (tags : List String) :
    interfaceNetwork? (InsertRequest.assemble spec scope resolved tags).encode =
      (NetworkInterface.networkOf spec.networking scope).map Json.str := by
  simp [interfaceNetwork?, InsertRequest.encode, InsertRequest.assemble, List.lookup_append,
    Json.items?, NetworkInterface.encode, NetworkInterface.ofSpec]

/-- Whatever a run inserts is on the network that its spec decides on. -/
theorem launchCourse_interface {rules : List FirewallRule} {steps : List Step}
    {outcome : Outcome InstanceSummary} (way : launchCourse env spec scope rules steps outcome)
    {url : String} (decided : NetworkInterface.networkOf spec.networking scope = some url) :
    OnInterface steps url := by
  intro insert member stage
  have late : Stage.insert.rank ≤ insert.stage.rank := by simp [stage, Stage.rank]
  obtain ⟨lookups, creations, rest, run, tags, rfl, prepared, -, inserting, last⟩ :=
    launchCourse_late way member late
  obtain ⟨rfl, -⟩ := prepareCourse_value prepared
  obtain ⟨path, call⟩ := inserting.insert_call rfl last stage
  refine ⟨path, _, call, ?_⟩
  rw [interfaceNetwork?_assemble, decided]
  rfl

/-- A run that comes to its rules has found one network for all that name none. -/
theorem launchCourse_sought {rules : List FirewallRule} {steps : List Step}
    {outcome : Outcome InstanceSummary} (way : launchCourse env spec scope rules steps outcome)
    {step : Step} (member : step ∈ steps) (late : (Stage.rule 0).rank ≤ step.stage.rank) :
    ∃ network, Sought env spec scope rules steps network ∧
      ∀ other ∈ steps, ∀ index, other.stage = .rule index →
        ∃ rule, rules[index]? = some rule ∧
          other.call = Firewall.createCall scope.project network rule := by
  obtain ⟨lookups, creations, rest, run, created, rfl, prepared, creating, onward⟩ :=
    launchCourse_created way member late
  obtain ⟨rfl, rfl⟩ := prepareCourse_value prepared
  have beyond : ∀ other ∈ rest, Stage.insert.rank ≤ other.stage.rank := by
    intro other among
    rcases onward with rfl | ⟨tags, -, inserting⟩
    · cases among
    · exact ((inserting.segment rfl).placed other among).1
  have later : ∀ other ∈ creations ++ rest, other.stage ≠ .subnetwork := by
    intro other among stage
    rcases List.mem_append.mp among with middle | last
    · obtain ⟨index, -, placed⟩ := creating.placed other middle
      rw [stage] at placed
      cases placed
    · have place := beyond other last
      rw [stage] at place
      exact absurd place (by decide)
  have earlier : ∀ other ∈ ([] : List Step), other.stage ≠ .subnetwork := by simp
  have sought := (prepareCourse_sought prepared).between earlier later
  refine ⟨run.network, sought, fun other among index stage => ?_⟩
  rcases List.mem_append.mp among with first | second
  · have place := ((prepareCourse_segment prepared).placed other first).2
    rw [stage] at place
    exact absurd place (Nat.lt_irrefl 4)
  rcases List.mem_append.mp second with middle | last
  · obtain ⟨place, rule, placed, found, call⟩ := creating.sends other middle
    rw [stage] at placed
    cases placed
    exact ⟨rule, found, call⟩
  · have place := beyond other last
    rw [stage] at place
    exact absurd place (Nat.not_succ_le_self 4)

/-- What was sought tells whether the provider was asked about the subnetwork. -/
theorem Sought.asked_iff {rules : List FirewallRule} {steps : List Step} {network : String}
    (sought : Sought env spec scope rules steps network) :
    (∃ step ∈ steps, step.stage = .subnetwork) ↔
      Text.given? spec.networking.network = none ∧
        (Text.given? spec.networking.subnetwork).isSome ∧ ∃ rule ∈ rules, rule.network = none := by
  have unasked : (∀ step ∈ steps, step.stage ≠ .subnetwork) →
      ¬ ∃ step ∈ steps, step.stage = .subnetwork := by
    rintro others ⟨step, member, stage⟩
    exact others step member stage
  cases sought with
  | given given others =>
    refine iff_of_false (unasked others) fun needed => ?_
    rw [given] at needed
    cases needed.1
  | asked absent given needed reported =>
    obtain ⟨step, member, stage, -⟩ := reported
    refine iff_of_true ⟨step, member, stage⟩ ⟨absent, ?_, needed⟩
    rw [given]
    rfl
  | needless absent given named others =>
    refine iff_of_false (unasked others) fun needed => ?_
    obtain ⟨-, -, rule, member, missing⟩ := needed
    exact named rule member missing
  | standard absent missing others =>
    refine iff_of_false (unasked others) fun needed => ?_
    rw [missing] at needed
    cases needed.2.1

/-- The network that a rule is sent with is the one where it belongs. -/
theorem Sought.attaches {rules : List FirewallRule} {steps : List Step} {network : String}
    (sought : Sought env spec scope rules steps network)
    (shared : ∀ url, NetworkInterface.networkOf spec.networking scope = some url →
      OnInterface steps url)
    {text : Spec.RuleText} {rule : FirewallRule} (member : rule ∈ rules)
    (same : rule.network = Text.given? text.network) :
    Attaches env spec scope steps text
      (networkPath (rule.network.getD network) scope.project) := by
  cases named : rule.network with
  | some own => exact .own (same.symm.trans named) (networkUrl_networkPath scope.project own)
  | none =>
    have unnamed : Text.given? text.network = none := same.symm.trans named
    cases sought with
    | given given others =>
      refine .configured unnamed given (networkUrl_networkPath scope.project network) ?_
      exact shared _ (by simp only [NetworkInterface.networkOf, given]; rfl)
    | asked absent given needed reported =>
      exact .reported unnamed absent given reported (networkUrl_networkPath scope.project network)
    | needless absent given all_named others => exact absurd named (all_named rule member)
    | standard absent missing others =>
      have trimmed : Text.trim "default" = "default" := by decide +kernel
      have plain : '/' ∉ "default".toList := by decide +kernel
      have standing := (networkUrl_networkPath scope.project "default").name plain
      rw [trimmed] at standing
      refine .standard unnamed absent missing ?_ ?_
      · rw [Option.getD_none]
        exact standing.trans (by simp [String.append_assoc])
      · exact shared _ (by simp only [NetworkInterface.networkOf, absent, missing]; rfl)

/-- Every run sends each rule to the network where it belongs: its own, else the one of the spec,
on which the interface is too, else that of the spec's subnetwork as the provider names it, else
the default one that the interface has then as well. A run that sends a rule has asked about the
subnetwork exactly when the network of some rule depends on it. -/
theorem provision_attaches (env : Environment) (polling : Polling) (signal : Signal)
    (spec : MachineSpec) (session : Session) :
    ∃ steps : List Step,
      (provision env polling signal spec session).2.world.history =
        session.world.history ++ steps.map (Step.exchange env) ∧
      InOrder env spec (spec.scope env.project) steps ∧
      ∀ sent ∈ steps, ∀ body,
        sent.call = .post (globalParent (spec.scope env.project).project "firewalls") body →
        (∃ index text url, sent.stage = .rule index ∧
          spec.networking.firewallRules[index]? = some text ∧
          body.get? "network" = some (.str url) ∧
          Attaches env spec (spec.scope env.project) steps text url) ∧
        ((∃ step ∈ steps, step.stage = .subnetwork) ↔
          Text.given? spec.networking.network = none ∧
            (Text.given? spec.networking.subnetwork).isSome ∧
            ∃ text ∈ spec.networking.firewallRules, Text.given? text.network = none) := by
  obtain ⟨steps, added, inOrder, ends⟩ := provision_inOrder env polling signal spec session
  refine ⟨steps, added, inOrder, fun sent member body call => ?_⟩
  have asked := inOrder.asked sent member
  rw [call] at asked
  obtain ⟨index, stage⟩ := Stage.eq_rule_of_asks asked
  rcases ends with ⟨_, _, rfl, _⟩ | ⟨-, rules, complete, way⟩
  · cases member
  have texts := ofTexts_of_rules complete
  have late : (Stage.rule 0).rank ≤ sent.stage.rank := by simp [stage, Stage.rank]
  obtain ⟨network, sought, sends⟩ := launchCourse_sought way member late
  constructor
  · obtain ⟨rule, found, created⟩ := sends sent member index stage
    obtain ⟨text, placed, read⟩ := rules_getElem? texts found
    have shared : ∀ url, NetworkInterface.networkOf spec.networking (spec.scope env.project) =
        some url → OnInterface steps url := fun _ decided => launchCourse_interface way decided
    have attaches := sought.attaches shared (List.mem_of_getElem? found) (network_ofText read)
    rw [call] at created
    obtain rfl := (Call.post.inj created).2
    exact ⟨index, text, _, stage, placed, rfl, attaches⟩
  · have networks := networks_ofTexts texts
    have unnamed : (∃ rule ∈ rules, rule.network = none) ↔
        ∃ text ∈ spec.networking.firewallRules, Text.given? text.network = none := by
      rw [← List.mem_map, ← List.mem_map, networks]
    rw [sought.asked_iff, unnamed]

end VmLaunch.Launch
