import VmLaunch.Proofs.Json.Members
import VmLaunch.Proofs.Launch.Course
import VmLaunch.Proofs.Request.Neat

/-!
# The interface of a machine

A static address is a literal or the name of a reserved one. `Settled` says how a run comes to
the address that it sends, with the step that it is known from; what was settled reaches the one
interface of the insert, so an address that was not looked up is never sent in its place.
-/

namespace VmLaunch

/-- The text of a static address. -/
def Spec.InternalAddress.static? : Spec.InternalAddress → Option String
  | .ephemeral => none
  | .static text => some text

/-- The text of a static address. -/
def Spec.ExternalAddress.static? : Spec.ExternalAddress → Option String
  | .absent => none
  | .ephemeral => none
  | .static text => some text

namespace Launch

variable {env : Environment} {spec : MachineSpec} {scope : Scope}

/-- The address for a static text: none for none, a literal as it stands and without a lookup,
for another text the address that the provider has answered the one lookup with. -/
inductive Settled (env : Environment) (scope : Scope) (stage : Stage) (steps : List Step) :
    Option String → Option String → Prop where
  | unset (unasked : ∀ step ∈ steps, step.stage ≠ stage) :
      Settled env scope stage steps none none
  | literal {text} (literal : Address.isLiteral (Text.trim text))
      (unasked : ∀ step ∈ steps, step.stage ≠ stage) :
      Settled env scope stage steps (some text) (some (Text.trim text))
  | reserved {text step body reserved} (once : steps.filter (·.stage = stage) = [step])
      (asked : Stage.AsksAddress scope text step.call) (answered : step.answer env = .ok body)
      (decoded : ReservedAddress.decode body = some reserved) (filled : reserved.address ≠ "") :
      Settled env scope stage steps (some text) (some reserved.address)

/-- An interface is on a network or a subnetwork, and has the addresses that were settled. -/
structure Carries (env : Environment) (spec : MachineSpec) (scope : Scope) (steps : List Step)
    (interface : Json) : Prop where
  placed : ∃ url, interface.get? "network" = some (.str url) ∨
    interface.get? "subnetwork" = some (.str url)
  internal : ∃ address, interface.get? "networkIP" = address.map Json.str ∧
    Settled env scope .internalAddress steps spec.networking.internalIp.static? address
  closed_iff : interface.get? "accessConfigs" = none ↔ spec.networking.externalIp = .absent
  external : ∃ address,
    Settled env scope .externalAddress steps spec.networking.externalIp.static? address ∧
    ∀ accesses, interface.get? "accessConfigs" = some accesses →
      ∃ access, accesses = .arr [access] ∧
        access.get? "type" = some (.str "ONE_TO_ONE_NAT") ∧
        access.get? "natIP" = address.map Json.str

section Settled

variable {stage : Stage} {steps : List Step} {text? address : Option String}

/-- There is an address exactly for a static text. -/
theorem Settled.isSome_eq (settled : Settled env scope stage steps text? address) :
    address.isSome = text?.isSome := by
  cases settled <;> rfl

/-- Steps of other stages have no part in what is settled. -/
theorem Settled.of_filter_eq {more : List Step}
    (settled : Settled env scope stage steps text? address)
    (same : more.filter (·.stage = stage) = steps.filter (·.stage = stage)) :
    Settled env scope stage more text? address := by
  have unasked : (∀ step ∈ steps, step.stage ≠ stage) → ∀ step ∈ more, step.stage ≠ stage := by
    intro others
    have vacant : steps.filter (·.stage = stage) = [] :=
      List.filter_eq_nil_iff.mpr (by simpa using others)
    simpa using List.filter_eq_nil_iff.mp (same.trans vacant)
  cases settled with
  | unset others => exact .unset (unasked others)
  | literal literal others => exact .literal literal (unasked others)
  | reserved once asked answered decoded filled =>
    exact .reserved (same.trans once) asked answered decoded filled

/-- An address that was settled still is when other steps follow. -/
theorem Settled.append {back : List Step} (settled : Settled env scope stage steps text? address)
    (others : ∀ step ∈ back, step.stage ≠ stage) :
    Settled env scope stage (steps ++ back) text? address := by
  have vacant : back.filter (·.stage = stage) = [] :=
    List.filter_eq_nil_iff.mpr (by simpa using others)
  exact settled.of_filter_eq (by rw [List.filter_append, vacant, List.append_nil])

/-- An address that was settled still is behind other steps. -/
theorem Settled.prepend {front : List Step} (settled : Settled env scope stage steps text? address)
    (others : ∀ step ∈ front, step.stage ≠ stage) :
    Settled env scope stage (front ++ steps) text? address := by
  have vacant : front.filter (·.stage = stage) = [] :=
    List.filter_eq_nil_iff.mpr (by simpa using others)
  exact settled.of_filter_eq (by rw [List.filter_append, vacant, List.nil_append])

/-- The interface has the internal address that was settled. -/
theorem internalOf_eq {config : Spec.InternalAddress}
    (settled : Settled env scope stage steps config.static? address) :
    NetworkInterface.internalOf config address = address := by
  cases config with
  | ephemeral =>
    cases settled
    rfl
  | static text =>
    obtain ⟨ip, rfl⟩ := Option.isSome_iff_exists.mp settled.isSome_eq
    rfl

/-- The interface has the external address that was settled, unless there is to be none. -/
theorem accessOf_eq {config : Spec.ExternalAddress} (other : config ≠ .absent)
    (settled : Settled env scope stage steps config.static? address) (tier : Option String) :
    NetworkInterface.accessOf config address tier = some ⟨address, tier⟩ := by
  cases config with
  | absent => exact absurd rfl other
  | ephemeral =>
    cases settled
    rfl
  | static text =>
    obtain ⟨ip, rfl⟩ := Option.isSome_iff_exists.mp settled.isSome_eq
    rfl

end Settled

/-- The inquiry after a static text. -/
def staticInquiry (scope : Scope) : Option String → Inquiry (Option String)
  | none => .decided (.ok none)
  | some text => (Lookup.addressInquiry scope.project scope.region text).map some

/-- The internal address is asked for as its static text demands. -/
theorem internalInquiry_eq (spec : MachineSpec) (scope : Scope) :
    internalInquiry spec scope = staticInquiry scope spec.networking.internalIp.static? := by
  unfold internalInquiry
  cases spec.networking.internalIp <;> rfl

/-- The external address is asked for as its static text demands. -/
theorem externalInquiry_eq (spec : MachineSpec) (scope : Scope) :
    externalInquiry spec scope = staticInquiry scope spec.networking.externalIp.static? := by
  unfold externalInquiry
  cases spec.networking.externalIp <;> rfl

/-- The steps of an inquiry are of its stage. -/
theorem stage_of_course {α : Type} {inquiry : Inquiry α} {stage : Stage} {steps : List Step}
    {outcome : Outcome α} (way : inquiry.course env (Step.mk stage) steps outcome) :
    ∀ step ∈ steps, step.stage = stage := by
  cases inquiry with
  | decided result =>
    obtain ⟨rfl, -⟩ := way
    simp
  | asking call judge =>
    obtain ⟨world, rfl, -⟩ := way
    simp

/-- A static text that the lookup accepts is settled by it. -/
theorem addressInquiry_settled {stage : Stage} {steps : List Step} {text address : String}
    {inquiry : Inquiry String}
    (same : Lookup.addressInquiry scope.project scope.region text = inquiry)
    (way : inquiry.course env (Step.mk stage) steps (.ok address)) :
    Settled env scope stage steps (some text) (some address) := by
  rw [← same, Lookup.addressInquiry] at way
  by_cases literal : Address.isLiteral (Text.trim text)
  · rw [if_pos literal] at way
    obtain ⟨rfl, ends⟩ := way
    cases ends
    exact .literal literal (by simp)
  rw [if_neg literal] at way
  by_cases vacant : shortName (Text.trim text) = ""
  · rw [if_pos vacant] at way
    cases way.2
  rw [if_neg vacant] at way
  obtain ⟨world, rfl, ends⟩ := way
  obtain ⟨body, answered, held, filled⟩ :=
    Lookup.judge_eq_ok_iff.mp (Outcome.ofExcept_eq_ok ends.symm)
  obtain ⟨reserved, decoded, rfl⟩ := Option.map_eq_some_iff.mp held
  generalize call : Call.get (regionParent scope.project scope.region "addresses" ++ "/" ++
    shortName (Text.trim text)) = question at answered
  have once : [Step.mk stage world question].filter (·.stage = stage) =
      [Step.mk stage world question] := by simp
  exact .reserved once ⟨literal, call.symm⟩ answered decoded filled

/-- An address that an inquiry has ended with is settled. -/
theorem staticInquiry_settled {stage : Stage} {steps : List Step} {text? address : Option String}
    (way : (staticInquiry scope text?).course env (Step.mk stage) steps (.ok address)) :
    Settled env scope stage steps text? address := by
  cases text? with
  | none =>
    obtain ⟨rfl, ends⟩ := way
    cases ends
    exact .unset (by simp)
  | some text =>
    rw [staticInquiry] at way
    -- The inquiry stays closed: what it asks for does not matter here.
    generalize closed : Lookup.addressInquiry scope.project scope.region text = inquiry at way
    obtain ⟨found, rfl, asking⟩ := Inquiry.course_map_ok way
    exact addressInquiry_settled closed asking

/-- The lookups of a run settle both of its addresses. -/
theorem resolveCourse_settled {steps : List Step} {resolved : Resolved}
    (way : resolveCourse env spec scope steps (.ok resolved)) :
    Settled env scope .internalAddress steps spec.networking.internalIp.static?
        resolved.addresses.internal ∧
      Settled env scope .externalAddress steps spec.networking.externalIp.static?
        resolved.addresses.external := by
  cases way with
  | @passed first _ origin _ asked after =>
    cases after with
    | @passed second _ internal _ inside after =>
      cases after with
      | @passed third _ external _ outside silent =>
        obtain ⟨rfl, same⟩ := silent
        cases same
        have earlier := stage_of_course asked
        have middle := stage_of_course inside
        have later := stage_of_course outside
        rw [internalInquiry_eq] at inside
        rw [externalInquiry_eq] at outside
        rw [List.append_nil]
        constructor
        · refine ((staticInquiry_settled inside).append fun step member => ?_).prepend
            fun step member => ?_
          · rw [later step member]
            decide
          · rw [earlier step member]
            decide
        · refine ((staticInquiry_settled outside).prepend fun step member => ?_).prepend
            fun step member => ?_
          · rw [middle step member]
            decide
          · rw [earlier step member]
            decide

/-- What is settled before the rules are created stays settled. -/
theorem prepareCourse_settled {rules : List FirewallRule} {steps : List Step} {run : Prepared}
    (way : prepareCourse env spec scope rules steps (.ok run)) :
    Settled env scope .internalAddress steps spec.networking.internalIp.static?
        run.resolved.addresses.internal ∧
      Settled env scope .externalAddress steps spec.networking.externalIp.static?
        run.resolved.addresses.external := by
  cases way with
  | @passed front _ resolved _ resolving after =>
    cases after with
    | @passed back _ network _ asking silent =>
      obtain ⟨rfl, same⟩ := silent
      cases same
      have later := stage_of_course asking
      obtain ⟨internal, external⟩ := resolveCourse_settled resolving
      rw [List.append_nil]
      constructor
      · refine internal.append fun step member => ?_
        rw [later step member]
        decide
      · refine external.append fun step member => ?_
        rw [later step member]
        decide

/-- An interface that is built of settled addresses carries them. -/
theorem carries_ofSpec {steps : List Step} {addresses : StaticAddresses}
    (internal : Settled env scope .internalAddress steps spec.networking.internalIp.static?
      addresses.internal)
    (external : Settled env scope .externalAddress steps spec.networking.externalIp.static?
      addresses.external) :
    Carries env spec scope steps
      (NetworkInterface.ofSpec spec.networking scope addresses).encode := by
  have placed := NetworkInterface.placed spec.networking scope addresses
  have inside := internalOf_eq internal
  constructor
  case placed =>
    rcases placed with given | given
    · obtain ⟨url, same⟩ := Option.isSome_iff_exists.mp given
      exact ⟨url, .inl (by simp [NetworkInterface.encode, List.lookup_append, same])⟩
    · obtain ⟨url, same⟩ := Option.isSome_iff_exists.mp given
      exact ⟨url, .inr (by simp [NetworkInterface.encode, List.lookup_append, same])⟩
  case internal =>
    refine ⟨addresses.internal, ?_, internal⟩
    simp [NetworkInterface.encode, List.lookup_append, NetworkInterface.ofSpec, inside]
  case closed_iff =>
    cases config : spec.networking.externalIp <;>
      simp [NetworkInterface.encode, List.lookup_append, NetworkInterface.ofSpec, config,
        NetworkInterface.accessOf]
  case external =>
    refine ⟨addresses.external, external, fun accesses shown => ?_⟩
    have given : (NetworkInterface.accessOf spec.networking.externalIp addresses.external
        (Text.given? spec.networking.networkTier)).map (fun access => Json.arr [access.encode]) =
        some accesses := by
      simpa [NetworkInterface.encode, List.lookup_append, NetworkInterface.ofSpec] using shown
    have other : spec.networking.externalIp ≠ .absent := by
      intro absent
      simp [absent, NetworkInterface.accessOf] at given
    rw [accessOf_eq other external, Option.map_some] at given
    obtain rfl := Option.some.inj given
    exact ⟨_, rfl, by simp [NatAccess.encode], by simp [NatAccess.encode, List.lookup_append]⟩

/-- A run that comes to its insert sends one interface, which carries what was settled. -/
theorem launchCourse_carries {rules : List FirewallRule} {steps : List Step}
    {outcome : Outcome InstanceSummary} (way : launchCourse env spec scope rules steps outcome)
    {insert : Step} (member : insert ∈ steps) (stage : insert.stage = .insert) :
    ∃ path request interface, insert.call = .post path request ∧
      request.get? "networkInterfaces" = some (.arr [interface]) ∧
      Carries env spec scope steps interface := by
  have late : Stage.insert.rank ≤ insert.stage.rank := by simp [stage, Stage.rank]
  obtain ⟨lookups, creations, rest, run, tags, rfl, prepared, creating, inserting, last⟩ :=
    launchCourse_late way member late
  obtain ⟨path, call⟩ := inserting.insert_call rfl last stage
  obtain ⟨internal, external⟩ := prepareCourse_settled prepared
  obtain ⟨rfl, -⟩ := prepareCourse_value prepared
  have behind : ∀ step ∈ creations ++ rest, (Stage.rule 0).rank ≤ step.stage.rank := by
    intro step among
    rcases List.mem_append.mp among with middle | final
    · obtain ⟨index, -, placed⟩ := creating.placed step middle
      rw [placed]
      exact Nat.le_refl 4
    · exact Nat.le_trans (Nat.le_succ 4) ((inserting.segment rfl).placed step final).1
  have others : ∀ stage : Stage, stage.rank < (Stage.rule 0).rank →
      ∀ step ∈ creations ++ rest, step.stage ≠ stage := by
    rintro _ lookup step among rfl
    exact absurd lookup (Nat.not_lt_of_le (behind step among))
  refine ⟨path, _, _, call, ?_, carries_ofSpec
    (internal.append (others .internalAddress (by decide)))
    (external.append (others .externalAddress (by decide)))⟩
  simp [InsertRequest.encode, List.lookup_append, InsertRequest.assemble]

/-- Every insert of a run has one interface, on a network or a subnetwork. It has an address of
its own exactly for a static one, inside and outside, and each is the one that the run has
settled; it is closed to the outside exactly when the spec says so. -/
theorem provision_carries (env : Environment) (polling : Polling) (signal : Signal)
    (spec : MachineSpec) (session : Session) :
    ∃ steps : List Step,
      (provision env polling signal spec session).2.world.history =
        session.world.history ++ steps.map (Step.exchange env) ∧
      InOrder env spec (spec.scope env.project) steps ∧
      ∀ insert ∈ steps, ∀ requestId body,
        insert.call = .post (insertPath (spec.scope env.project) requestId) body →
        ∃ interface, body.get? "networkInterfaces" = some (.arr [interface]) ∧
          Carries env spec (spec.scope env.project) steps interface := by
  obtain ⟨steps, added, inOrder, ends⟩ := provision_inOrder env polling signal spec session
  refine ⟨steps, added, inOrder, fun insert member requestId body call => ?_⟩
  have asked := inOrder.asked insert member
  rw [call] at asked
  have stage := Stage.eq_insert_of_asks asked
  rcases ends with ⟨_, _, rfl, _⟩ | ⟨-, rules, -, way⟩
  · cases member
  obtain ⟨path, request, interface, sent, listed, carries⟩ := launchCourse_carries way member stage
  obtain rfl := (Call.post.inj (call.symm.trans sent)).2
  exact ⟨interface, listed, carries⟩

end Launch

end VmLaunch
