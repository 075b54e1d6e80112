import VmLaunch.Proofs.Launch.Passage
import VmLaunch.Proofs.Launch.Segment

/-!
# The lookups of a launch

What a run asks before it changes anything: an image family, two addresses and the
network of its rules, each an inquiry that its spec decides on.
-/

namespace VmLaunch.Launch

/-- What a run asks about its boot source. -/
def originInquiry (spec : MachineSpec) (scope : Scope) : Inquiry BootOrigin :=
  match spec.bootDisk.source with
  | none => .decided (.error (.invalid .noBootSource))
  | some (.publicImage imageProject (.family family)) =>
    (Lookup.familyInquiry (Text.trim imageProject) (Text.trim family)).map .image
  | some (.publicImage imageProject (.name name)) =>
    .decided (.ok (.image (imagePath name (Text.trim imageProject))))
  | some (.customImage image) => .decided (.ok (.image (imagePath image scope.project)))
  | some (.snapshot snapshot) => .decided (.ok (.snapshot (snapshotPath snapshot scope.project)))
  | some (.existingDisk disk) => .decided (.ok (.disk (diskPath disk scope.project scope.zone)))

/-- What a run asks about its internal address. -/
def internalInquiry (spec : MachineSpec) (scope : Scope) : Inquiry (Option String) :=
  match spec.networking.internalIp with
  | .ephemeral => .decided (.ok none)
  | .static text => (Lookup.addressInquiry scope.project scope.region text).map some

/-- What a run asks about its external address. -/
def externalInquiry (spec : MachineSpec) (scope : Scope) : Inquiry (Option String) :=
  match spec.networking.externalIp with
  | .absent => .decided (.ok none)
  | .ephemeral => .decided (.ok none)
  | .static text => (Lookup.addressInquiry scope.project scope.region text).map some

/-- What a run asks about the network of its rules. -/
def ruleNetworkInquiry (spec : MachineSpec) (scope : Scope) (rules : List FirewallRule) :
    Inquiry String :=
  match Text.given? spec.networking.network, Text.given? spec.networking.subnetwork with
  | some network, _ => .decided (.ok network)
  | none, some subnetwork =>
    if rules.any fun rule => rule.network.isNone then
      Lookup.networkInquiry scope.project scope.region subnetwork
    else .decided (.ok FirewallRule.defaultNetwork)
  | none, none => .decided (.ok FirewallRule.defaultNetwork)

/-- The boot source is resolved by its inquiry. -/
theorem resolveOrigin_eq_perform (env : Environment) (spec : MachineSpec) (scope : Scope) :
    resolveOrigin env spec scope = (originInquiry spec scope).perform env := by
  unfold resolveOrigin originInquiry
  rcases spec.bootDisk.source with _ | ⟨imageProject, name | family⟩ | image | snapshot | disk
  case some.publicImage.family =>
    rw [Inquiry.perform_map, ← Lookup.imageFamily_eq_perform]
  all_goals rfl

/-- The internal address is resolved by its inquiry. -/
theorem resolveInternal_eq_perform (env : Environment) (spec : MachineSpec) (scope : Scope) :
    resolveInternal env spec scope = (internalInquiry spec scope).perform env := by
  unfold resolveInternal internalInquiry
  cases spec.networking.internalIp with
  | ephemeral => rfl
  | static text => rw [Inquiry.perform_map, ← Lookup.address_eq_perform]

/-- The external address is resolved by its inquiry. -/
theorem resolveExternal_eq_perform (env : Environment) (spec : MachineSpec) (scope : Scope) :
    resolveExternal env spec scope = (externalInquiry spec scope).perform env := by
  unfold resolveExternal externalInquiry
  cases spec.networking.externalIp with
  | absent => rfl
  | ephemeral => rfl
  | static text => rw [Inquiry.perform_map, ← Lookup.address_eq_perform]

/-- The network of rules is resolved by its inquiry. -/
theorem ruleNetwork_eq_perform (env : Environment) (spec : MachineSpec) (scope : Scope)
    (rules : List FirewallRule) :
    ruleNetwork env spec scope rules = (ruleNetworkInquiry spec scope rules).perform env := by
  unfold ruleNetwork ruleNetworkInquiry
  cases Text.given? spec.networking.network with
  | some network => rfl
  | none =>
    cases Text.given? spec.networking.subnetwork with
    | none => rfl
    | some subnetwork =>
      by_cases needed : rules.any fun rule => rule.network.isNone
      · simp only [needed, if_true, Lookup.subnetworkNetwork_eq_perform]
      · simp only [needed]
        rfl

/-- The course of the lookups that a request needs. -/
def resolveCourse (env : Environment) (spec : MachineSpec) (scope : Scope) :
    Course Step Resolved :=
  Course.Then ((originInquiry spec scope).course env (Step.mk .imageFamily)) fun origin =>
    Course.Then ((internalInquiry spec scope).course env (Step.mk .internalAddress))
      fun internal =>
        Course.Then ((externalInquiry spec scope).course env (Step.mk .externalAddress))
          fun external => Course.silent ⟨origin, ⟨internal, external⟩⟩

/-- The course of every lookup of a run. -/
def prepareCourse (env : Environment) (spec : MachineSpec) (scope : Scope)
    (rules : List FirewallRule) : Course Step Prepared :=
  Course.Then (resolveCourse env spec scope) fun resolved =>
    Course.Then ((ruleNetworkInquiry spec scope rules).course env (Step.mk .subnetwork))
      fun network => Course.silent ⟨scope, rules, resolved, network⟩

/-- The lookups for a request are made one after the other, through the worlds of their steps. -/
theorem resolve_treads (env : Environment) (spec : MachineSpec) (scope : Scope) :
    (resolve env spec scope).Treads env (resolveCourse env spec scope) := by
  unfold resolve
  rw [resolveOrigin_eq_perform, resolveInternal_eq_perform, resolveExternal_eq_perform]
  refine (Inquiry.perform_treads _ env _).bind fun origin => ?_
  refine (Inquiry.perform_treads _ env _).bind fun internal => ?_
  refine (Inquiry.perform_treads _ env _).bind fun external => ?_
  exact Work.treads_ofExcept (.ok _) ⟨rfl, rfl⟩

/-- The lookups for a request are made one after the other. -/
theorem resolve_follows (env : Environment) (spec : MachineSpec) (scope : Scope) :
    (resolve env spec scope).Follows (Step.exchange env) (resolveCourse env spec scope) :=
  (resolve_treads env spec scope).follows

/-- A spec that passes its check has a boot source and complete rules. -/
theorem rules_of_check {spec : MachineSpec} (valid : spec.check = .ok ()) :
    (∃ source, spec.bootDisk.source = some source) ∧ ∃ rules, spec.rules = .ok rules := by
  unfold MachineSpec.check at valid
  split at valid
  · cases valid
  split at valid
  · cases valid
  split at valid
  · cases valid
  split at valid
  · cases valid
  split at valid
  · cases valid
  case h_2 source found =>
    split at valid
    · cases valid
    · refine ⟨⟨source, found⟩, ?_⟩
      cases complete : spec.rules with
      | ok rules => exact ⟨rules, rfl⟩
      | error cause =>
        rw [complete] at valid
        cases valid

/-- A spec that fails its check ends the run at once. -/
theorem prepare_of_invalid {env : Environment} {spec : MachineSpec} {cause : SpecError}
    (invalid : spec.check = .error cause) : prepare env spec = Work.fail (.invalid cause) := by
  funext world
  simp only [prepare, checkSpec, invalid]
  rfl

/-- A valid spec is prepared by its lookups, through the worlds of their steps. -/
theorem prepare_treads (env : Environment) {spec : MachineSpec} {rules : List FirewallRule}
    (valid : spec.check = .ok ()) (complete : spec.rules = .ok rules) :
    (prepare env spec).Treads env (prepareCourse env spec (spec.scope env.project) rules) := by
  have begins : prepare env spec = do
      let resolved ← resolve env spec (spec.scope env.project)
      let network ← ruleNetwork env spec (spec.scope env.project) rules
      return ⟨spec.scope env.project, rules, resolved, network⟩ := by
    funext world
    simp only [prepare, checkSpec, rulesOf, valid, complete]
    rfl
  rw [begins]
  refine (resolve_treads env spec _).bind fun resolved => ?_
  rw [ruleNetwork_eq_perform]
  refine (Inquiry.perform_treads _ env _).bind fun network => ?_
  exact Work.treads_ofExcept (.ok _) ⟨rfl, rfl⟩

/-- A valid spec is prepared by its lookups. -/
theorem prepare_follows (env : Environment) {spec : MachineSpec} {rules : List FirewallRule}
    (valid : spec.check = .ok ()) (complete : spec.rules = .ok rules) :
    (prepare env spec).Follows (Step.exchange env)
      (prepareCourse env spec (spec.scope env.project) rules) :=
  (prepare_treads env valid complete).follows

variable {env : Environment} {spec : MachineSpec} {scope : Scope}

/-- About a boot source only the family is asked for. -/
theorem originInquiry_serves :
    (originInquiry spec scope).Serves (Stage.imageFamily.Asks spec scope)
      Stage.imageFamily.Accepts := by
  unfold originInquiry
  rcases source : spec.bootDisk.source with
    _ | ⟨imageProject, name | family⟩ | image | snapshot | disk
  case some.publicImage.family =>
    have serves : (Lookup.familyInquiry (Text.trim imageProject) (Text.trim family)).Serves
        (Stage.imageFamily.Asks spec scope) Stage.imageFamily.Accepts := by
      refine .asking ⟨imageProject, family, source, rfl⟩ fun answer text judged => ?_
      obtain ⟨body, rfl, held, filled⟩ := Lookup.judge_eq_ok_iff.mp judged
      obtain ⟨image, decoded, rfl⟩ := Option.map_eq_some_iff.mp held
      exact ⟨body, image, rfl, decoded, filled⟩
    exact serves.map _
  all_goals exact .decided

/-- A static address text is asked about only when it is no literal. -/
theorem addressInquiry_serves (text : String) :
    (Lookup.addressInquiry scope.project scope.region text).Serves
      (Stage.AsksAddress scope text) Stage.internalAddress.Accepts := by
  unfold Lookup.addressInquiry
  by_cases literal : Address.isLiteral (Text.trim text)
  · simp only [literal, if_true]
    exact .decided
  by_cases vacant : shortName (Text.trim text) = ""
  · simp only [literal, vacant]
    exact .decided
  · simp only [literal, vacant, if_false, Bool.false_eq_true]
    refine .asking ⟨literal, rfl⟩ fun answer address judged => ?_
    obtain ⟨body, rfl, held, filled⟩ := Lookup.judge_eq_ok_iff.mp judged
    obtain ⟨reserved, decoded, rfl⟩ := Option.map_eq_some_iff.mp held
    exact ⟨body, reserved, rfl, decoded, filled⟩

/-- About an internal address only the address is asked for. -/
theorem internalInquiry_serves :
    (internalInquiry spec scope).Serves (Stage.internalAddress.Asks spec scope)
      Stage.internalAddress.Accepts := by
  unfold internalInquiry
  cases static : spec.networking.internalIp with
  | ephemeral => exact .decided
  | static text =>
    exact ((addressInquiry_serves text).mono fun call asks => ⟨text, static, asks⟩).map some

/-- About an external address only the address is asked for. -/
theorem externalInquiry_serves :
    (externalInquiry spec scope).Serves (Stage.externalAddress.Asks spec scope)
      Stage.externalAddress.Accepts := by
  unfold externalInquiry
  cases static : spec.networking.externalIp with
  | absent => exact .decided
  | ephemeral => exact .decided
  | static text =>
    exact ((addressInquiry_serves text).mono fun call asks => ⟨text, static, asks⟩).map some

/-- About the network of rules only the subnetwork is asked for. -/
theorem ruleNetworkInquiry_serves (rules : List FirewallRule) :
    (ruleNetworkInquiry spec scope rules).Serves (Stage.subnetwork.Asks spec scope)
      Stage.subnetwork.Accepts := by
  unfold ruleNetworkInquiry
  cases network : Text.given? spec.networking.network with
  | some network => exact .decided
  | none =>
    cases subnetwork : Text.given? spec.networking.subnetwork with
    | none => exact .decided
    | some name =>
      by_cases needed : rules.any fun rule => rule.network.isNone
      · simp only [needed, if_true]
        refine .asking ⟨name, network, subnetwork, rfl⟩ fun answer text judged => ?_
        obtain ⟨body, rfl, held, filled⟩ := Lookup.judge_eq_ok_iff.mp judged
        obtain ⟨subnet, decoded, rfl⟩ := Option.map_eq_some_iff.mp held
        exact ⟨body, subnet, rfl, decoded, filled⟩
      · simp only [needed]
        exact .decided

/-- The lookups for a request stand in front of a run. -/
theorem resolveCourse_segment {steps : List Step} {outcome : Outcome Resolved}
    (way : resolveCourse env spec scope steps outcome) :
    Segment env (fun stage => stage.Asks spec scope) 0 3 steps outcome := by
  refine Segment.ofThen way (fun _ _ way => Segment.ofInquiry way originInquiry_serves)
    (fun origin _ _ way => ?_) (by decide) (by decide)
  refine Segment.ofThen way (fun _ _ way => Segment.ofInquiry way internalInquiry_serves)
    (fun internal _ _ way => ?_) (by decide) (by decide)
  refine Segment.ofThen way (fun _ _ way => Segment.ofInquiry way externalInquiry_serves)
    (fun external _ _ way => ?_) (by decide) (by decide)
  obtain ⟨rfl, rfl⟩ := way
  exact Segment.nil _

/-- All lookups stand in front of a run. -/
theorem prepareCourse_segment {rules : List FirewallRule} {steps : List Step}
    {outcome : Outcome Prepared} (way : prepareCourse env spec scope rules steps outcome) :
    Segment env (fun stage => stage.Asks spec scope) 0 4 steps outcome := by
  refine Segment.ofThen way (fun _ _ way => resolveCourse_segment way)
    (fun resolved _ _ way => ?_) (by decide) (by decide)
  refine Segment.ofThen way (fun _ _ way => Segment.ofInquiry way (ruleNetworkInquiry_serves rules))
    (fun network _ _ way => ?_) (by decide) (by decide)
  obtain ⟨rfl, rfl⟩ := way
  exact Segment.nil _

/-- The lookups of a run keep its scope and its rules. -/
theorem prepareCourse_value {rules : List FirewallRule} {steps : List Step} {run : Prepared}
    (way : prepareCourse env spec scope rules steps (.ok run)) :
    run.scope = scope ∧ run.rules = rules := by
  cases way with
  | passed _ after =>
    cases after with
    | passed _ last =>
      obtain ⟨-, same⟩ := last
      cases same
      exact ⟨rfl, rfl⟩

/-- Lookups are always seen to end. -/
theorem prepareCourse_ne_unfinished {rules : List FirewallRule} {steps : List Step}
    {outcome : Outcome Prepared} (way : prepareCourse env spec scope rules steps outcome) :
    outcome ≠ .unfinished := by
  rintro rfl
  refine Course.Then.ends (fun steps resolving => ?_) (fun resolved steps after => ?_) way
  · refine Course.Then.ends (fun _ => Inquiry.course_ends) (fun _ _ => ?_) resolving
    refine Course.Then.ends (fun _ => Inquiry.course_ends) fun _ _ => ?_
    refine Course.Then.ends (fun _ => Inquiry.course_ends) fun _ _ silent => ?_
    cases silent.2
  · refine Course.Then.ends (fun _ => Inquiry.course_ends) (fun _ _ silent => ?_) after
    cases silent.2

/-- To ask about a boot source that is given fails as a lookup does. -/
theorem originInquiry_blames {source : Spec.BootSource}
    (given : spec.bootDisk.source = some source) :
    (originInquiry spec scope).Blames LaunchError.FromLookup := by
  unfold originInquiry
  rw [given]
  rcases source with ⟨imageProject, name | family⟩ | image | snapshot | disk
  case publicImage.family =>
    have blames : (Lookup.familyInquiry (Text.trim imageProject) (Text.trim family)).Blames
        LaunchError.FromLookup := .asking fun _ _ failed => Lookup.judge_blames failed
    exact blames.map _
  all_goals exact .decided

/-- To ask for an address fails as a lookup does. -/
theorem addressInquiry_blames (project region text : String) :
    (Lookup.addressInquiry project region text).Blames LaunchError.FromLookup := by
  unfold Lookup.addressInquiry
  by_cases literal : Address.isLiteral (Text.trim text)
  · simp only [literal, if_true]
    exact .decided
  by_cases vacant : shortName (Text.trim text) = ""
  · simp only [literal, vacant]
    exact .refused trivial
  · simp only [literal, vacant, if_false, Bool.false_eq_true]
    exact .asking fun _ _ failed => Lookup.judge_blames failed

/-- To ask about an internal address fails as a lookup does. -/
theorem internalInquiry_blames :
    (internalInquiry spec scope).Blames LaunchError.FromLookup := by
  unfold internalInquiry
  cases spec.networking.internalIp with
  | ephemeral => exact .decided
  | static text => exact (addressInquiry_blames _ _ text).map some

/-- To ask about an external address fails as a lookup does. -/
theorem externalInquiry_blames :
    (externalInquiry spec scope).Blames LaunchError.FromLookup := by
  unfold externalInquiry
  cases spec.networking.externalIp with
  | absent => exact .decided
  | ephemeral => exact .decided
  | static text => exact (addressInquiry_blames _ _ text).map some

/-- To ask about the network of rules fails as a lookup does. -/
theorem ruleNetworkInquiry_blames (rules : List FirewallRule) :
    (ruleNetworkInquiry spec scope rules).Blames LaunchError.FromLookup := by
  unfold ruleNetworkInquiry
  cases Text.given? spec.networking.network with
  | some network => exact .decided
  | none =>
    cases Text.given? spec.networking.subnetwork with
    | none => exact .decided
    | some subnetwork =>
      by_cases needed : rules.any fun rule => rule.network.isNone
      · simp only [needed, if_true]
        exact .asking fun _ _ failed => Lookup.judge_blames failed
      · simp only [needed]
        exact .decided

/-- Lookups of a spec with a boot source fail for what they look up. -/
theorem prepareCourse_blames {rules : List FirewallRule} {source : Spec.BootSource}
    (given : spec.bootDisk.source = some source) {steps : List Step} {cause : LaunchError}
    (way : prepareCourse env spec scope rules steps (.error cause)) : cause.FromLookup := by
  refine way.blames (fun steps way => ?_) fun _ steps way =>
    way.blames (fun _ => (ruleNetworkInquiry_blames rules).of_course)
      fun _ _ silent => nomatch silent.2
  refine way.blames (fun _ => (originInquiry_blames given).of_course) fun _ steps way => ?_
  refine way.blames (fun _ => internalInquiry_blames.of_course) fun _ steps way => ?_
  exact way.blames (fun _ => externalInquiry_blames.of_course) fun _ _ silent =>
    nomatch silent.2

end VmLaunch.Launch
