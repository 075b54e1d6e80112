import VmLaunch.Launch.Run

/-!
# Stages of a launch

A run passes through stages in a fixed order. `Stage.Asks` names the calls of a
stage, `Stage.Accepts` the answers after which a run may go on, and `InOrder` is
the discipline that both impose on a sequence of steps.
-/

namespace VmLaunch

/-- The operation that an answer holds. -/
def Operation.ofAnswer? : Answer → Option Operation
  | .error _ => none
  | .ok body => Operation.decode body

/-- Whether a call may change something. -/
def Call.isPost : Call → Bool
  | .post _ _ => true
  | .get _ => false
  | .getUrl _ => false

namespace Launch

/-- The stages of a run, in the order in which their calls are made. -/
inductive Stage where
  | imageFamily
  | internalAddress
  | externalAddress
  | subnetwork
  | rule (index : Nat)
  | insert
  | poll
  | fetch
  deriving DecidableEq

namespace Stage

/-- The place of a stage in the order; rules share theirs. -/
def rank : Stage → Nat
  | .imageFamily => 0
  | .internalAddress => 1
  | .externalAddress => 2
  | .subnetwork => 3
  | .rule _ => 4
  | .insert => 5
  | .poll => 6
  | .fetch => 7

/-- Whether a call of one stage may come before a call of another. Rules keep their
order and only polls repeat. -/
def Precedes : Stage → Stage → Prop
  | .rule early, .rule late => early < late
  | .poll, .poll => True
  | early, late => early.rank < late.rank

/-- Whether a stage looks something up before anything is changed. -/
def IsLookup (stage : Stage) : Prop :=
  stage.rank < rank (.rule 0)

/-- The address that a static address text makes a run ask for. -/
def AsksAddress (scope : Scope) (text : String) (call : Call) : Prop :=
  ¬ Address.isLiteral (Text.trim text) ∧
    call = .get (regionParent scope.project scope.region "addresses" ++ "/" ++
      shortName (Text.trim text))

/-- The calls that a stage may make in a run of a spec. -/
def Asks (spec : MachineSpec) (scope : Scope) : Stage → Call → Prop
  | .imageFamily, call => ∃ imageProject family,
      spec.bootDisk.source = some (.publicImage imageProject (.family family)) ∧
        call = .get (imageFamilyPath (Text.trim family) (Text.trim imageProject))
  | .internalAddress, call => ∃ text,
      spec.networking.internalIp = .static text ∧ AsksAddress scope text call
  | .externalAddress, call => ∃ text,
      spec.networking.externalIp = .static text ∧ AsksAddress scope text call
  | .subnetwork, call => ∃ subnetwork,
      Text.given? spec.networking.network = none ∧
        Text.given? spec.networking.subnetwork = some subnetwork ∧
          call = Lookup.subnetworkCall scope.project scope.region (Text.trim subnetwork)
  | .rule index, call => ∃ text rule network,
      spec.networking.firewallRules[index]? = some text ∧ FirewallRule.ofText text = .ok rule ∧
        call = Firewall.createCall scope.project network rule
  | .insert, call => ∃ requestId request,
      request.name = spec.instanceName ∧
        call = .post (insertPath scope requestId) (InsertRequest.encode request)
  | .poll, call => ∃ operation, call = .get (Operation.path scope operation)
  | .fetch, call =>
      call = .get (zoneParent scope.project scope.zone "instances" ++ "/" ++ spec.instanceName)

/-- The answers after which a run may go on. A rule that already exists counts as created. -/
def Accepts : Stage → Answer → Prop
  | .imageFamily, answer => ∃ body image,
      answer = .ok body ∧ Image.decode body = some image ∧ image.selfLink ≠ ""
  | .internalAddress, answer => ∃ body reserved,
      answer = .ok body ∧ ReservedAddress.decode body = some reserved ∧ reserved.address ≠ ""
  | .externalAddress, answer => ∃ body reserved,
      answer = .ok body ∧ ReservedAddress.decode body = some reserved ∧ reserved.address ≠ ""
  | .subnetwork, answer => ∃ body subnet,
      answer = .ok body ∧ Subnetwork.decode body = some subnet ∧ subnet.network ≠ ""
  | .rule _, answer => ∀ fault, answer = .error fault → Firewall.alreadyExists fault
  | .insert, answer => ∃ operation progress,
      Operation.ofAnswer? answer = some operation ∧ operation.name ≠ "" ∧
        operation.check = .ok progress
  | .poll, answer => ∃ operation progress,
      Operation.ofAnswer? answer = some operation ∧ operation.check = .ok progress
  | .fetch, answer => ∃ body, answer = .ok body

/-- A stage of a lower rank comes before one of a higher. -/
theorem precedes_of_rank_lt {early late : Stage} (lower : early.rank < late.rank) :
    early.Precedes late := by
  cases early <;> cases late <;> simp_all [Precedes, rank]

/-- A stage that comes before another has no higher rank. -/
theorem rank_le_of_precedes {early late : Stage} (precedes : early.Precedes late) :
    early.rank ≤ late.rank := by
  cases early <;> cases late <;> simp_all [Precedes, rank]

/-- Only polls may repeat. -/
theorem not_precedes_self {stage : Stage} (other : stage ≠ .poll) : ¬ stage.Precedes stage := by
  cases stage <;> simp_all [Precedes, rank]

/-- Only rules and the insert change anything. -/
theorem isPost_iff_of_asks {spec : MachineSpec} {scope : Scope} {stage : Stage} {call : Call}
    (asks : stage.Asks spec scope call) :
    call.isPost ↔ rank (.rule 0) ≤ stage.rank ∧ stage.rank ≤ rank .insert := by
  cases stage with
  | imageFamily =>
    obtain ⟨_, _, _, rfl⟩ := asks
    simp [Call.isPost, rank]
  | internalAddress =>
    obtain ⟨_, _, _, rfl⟩ := asks
    simp [Call.isPost, rank]
  | externalAddress =>
    obtain ⟨_, _, _, rfl⟩ := asks
    simp [Call.isPost, rank]
  | subnetwork =>
    obtain ⟨subnetwork, _, _, rfl⟩ := asks
    unfold Lookup.subnetworkCall
    split <;> simp [Call.isPost, rank]
  | rule index =>
    obtain ⟨_, _, _, _, _, rfl⟩ := asks
    simp [Call.isPost, Firewall.createCall, rank]
  | insert =>
    obtain ⟨_, _, _, rfl⟩ := asks
    simp [Call.isPost, rank]
  | poll =>
    obtain ⟨_, rfl⟩ := asks
    simp [Call.isPost, rank]
  | fetch =>
    cases asks
    simp [Call.isPost, rank]

/-- Lookups change nothing. -/
theorem not_isPost_of_asks {spec : MachineSpec} {scope : Scope} {stage : Stage} {call : Call}
    (asks : stage.Asks spec scope call) (lookup : stage.IsLookup) : call.isPost = false := by
  cases post : call.isPost with
  | false => rfl
  | true => exact absurd lookup (Nat.not_lt_of_le ((isPost_iff_of_asks asks).mp post).1)

/-- A call that changes something creates a rule or inserts. -/
theorem eq_rule_or_insert_of_asks {spec : MachineSpec} {scope : Scope} {stage : Stage}
    {call : Call} (asks : stage.Asks spec scope call) (post : call.isPost) :
    (∃ index, stage = .rule index) ∨ stage = .insert := by
  obtain ⟨lower, upper⟩ := (isPost_iff_of_asks asks).mp post
  cases stage with
  | rule index => exact .inl ⟨index, rfl⟩
  | insert => exact .inr rfl
  | imageFamily => exact absurd lower (by decide)
  | internalAddress => exact absurd lower (by decide)
  | externalAddress => exact absurd lower (by decide)
  | subnetwork => exact absurd lower (by decide)
  | poll => exact absurd upper (by decide)
  | fetch => exact absurd upper (by decide)

/-- Rules are not created where machines are inserted. -/
theorem insertPath_ne (scope : Scope) (requestId : String) :
    insertPath scope requestId ≠ globalParent scope.project "firewalls" := by
  intro same
  have texts := congrArg String.toList same
  simp [insertPath, zoneParent, globalParent] at texts

/-- An insert is told from the creation of a rule by its path. -/
theorem eq_insert_of_asks {spec : MachineSpec} {scope : Scope} {stage : Stage}
    {requestId : String} {body : Json}
    (asks : stage.Asks spec scope (.post (insertPath scope requestId) body)) :
    stage = .insert := by
  rcases eq_rule_or_insert_of_asks asks rfl with ⟨index, rfl⟩ | insert
  · obtain ⟨_, rule, network, _, _, call⟩ := asks
    exact absurd (Call.post.inj call).1 (insertPath_ne scope requestId)
  · exact insert

/-- The creation of a rule is told from an insert by its path. -/
theorem eq_rule_of_asks {spec : MachineSpec} {scope : Scope} {stage : Stage} {body : Json}
    (asks : stage.Asks spec scope (.post (globalParent scope.project "firewalls") body)) :
    ∃ index, stage = .rule index := by
  rcases eq_rule_or_insert_of_asks asks rfl with rule | rfl
  · exact rule
  · obtain ⟨requestId, _, _, call⟩ := asks
    exact absurd (Call.post.inj call).1.symm (insertPath_ne scope requestId)

end Stage

/-- A call of a run, with its stage and the world in which it was made. -/
structure Step where
  stage : Stage
  world : World
  call : Call

namespace Step

/-- What the provider answered. -/
def answer (env : Environment) (step : Step) : Answer :=
  (env.reply step.world step.call).answer

/-- The exchange of a step. -/
def exchange (env : Environment) (step : Step) : Exchange where
  call := step.call
  answer := step.answer env
  time := step.world.now

/-- Whether a run may go on after a step. -/
def Accepted (env : Environment) (step : Step) : Prop :=
  step.stage.Accepts (step.answer env)

end Step

/-- Steps in the order of their stages, each after accepted steps only. Polls ask for
the operation that the answer to the insert names. -/
structure InOrder (env : Environment) (spec : MachineSpec) (scope : Scope)
    (steps : List Step) : Prop where
  ordered : steps.Pairwise fun early late => early.stage.Precedes late.stage
  asked : ∀ step ∈ steps, step.stage.Asks spec scope step.call
  accepted : ∀ step ∈ steps.dropLast, step.Accepted env
  polled : ∀ step ∈ steps, step.stage = .poll →
    ∃ insert ∈ steps, insert.stage = .insert ∧
      ∃ operation, Operation.ofAnswer? (insert.answer env) = some operation ∧
        step.call = .get (Operation.path scope operation.name)

end Launch

end VmLaunch
