import VmLaunch.Proofs.Launch.Course
import VmLaunch.Proofs.Request.Tags

/-!
# Dry runs

A dry run and a run evaluate the same inquiries, so providers that give the same
answers to lookups lead both to the same `Resolved`. What is left to differ are
the tags: a run carries those of its rules once each, a dry run as they come, and
a request does not tell.
-/

namespace VmLaunch

/-- The exchanges before the first change. -/
def Exchange.lookups (exchanges : List Exchange) : List Exchange :=
  exchanges.takeWhile fun exchange => !exchange.call.isPost

/-- The exchanges before the first change are among all. -/
theorem Exchange.mem_of_mem_lookups {exchanges : List Exchange} {exchange : Exchange}
    (member : exchange ∈ lookups exchanges) : exchange ∈ exchanges :=
  List.takeWhile_subset _ member

/-- Exchanges that change nothing come before the first change, whatever follows them. -/
theorem Exchange.mem_lookups_append {front back : List Exchange} {exchange : Exchange}
    (member : exchange ∈ front) (harmless : ∀ other ∈ front, other.call.isPost = false) :
    exchange ∈ lookups (front ++ back) := by
  unfold lookups
  rw [List.takeWhile_append_of_pos fun other among => by simp [harmless other among]]
  exact List.mem_append_left _ member

namespace Launch

variable {env : Environment} {spec : MachineSpec} {scope : Scope}

/-- What the answers of a provider resolve a spec to. -/
def resolution (answers : Call → Answer) (spec : MachineSpec) (scope : Scope) :
    Except LaunchError Resolved := do
  let origin ← (originInquiry spec scope).evaluate answers
  let internal ← (internalInquiry spec scope).evaluate answers
  let external ← (externalInquiry spec scope).evaluate answers
  return ⟨origin, ⟨internal, external⟩⟩

/-- Steps that a provider with fixed answers would have made. -/
def Agree (env : Environment) (answers : Call → Answer) (steps : List Step) : Prop :=
  ∀ step ∈ steps, step.answer env = answers step.call

/-- Steps in two parts agree with answers when both parts do. -/
theorem Agree.append_iff {answers : Call → Answer} {front back : List Step} :
    Agree env answers (front ++ back) ↔ Agree env answers front ∧ Agree env answers back :=
  List.forall_mem_append

/-- Courses that end as answers lead to compose like the results. -/
theorem then_evaluate {α β : Type} {answers : Call → Answer} {first : Course Step α}
    {next : α → Course Step β} {steps : List Step} {outcome : Outcome β}
    {result : Except LaunchError α} {onward : α → Except LaunchError β}
    (way : first.Then next steps outcome) (agree : Agree env answers steps)
    (head : ∀ steps outcome, first steps outcome → Agree env answers steps →
      outcome = Outcome.ofExcept result)
    (tail : ∀ value steps outcome, next value steps outcome → Agree env answers steps →
      outcome = Outcome.ofExcept (onward value)) :
    outcome = Outcome.ofExcept (result >>= onward) := by
  cases way with
  | passed entry after =>
    obtain ⟨former, latter⟩ := Agree.append_iff.mp agree
    have ends := head _ _ entry former
    cases result with
    | ok value =>
      cases ends
      exact tail _ _ _ after latter
    | error cause => cases ends
  | failed stop =>
    have ends := head _ _ stop agree
    cases result with
    | ok value => cases ends
    | error cause =>
      cases ends
      rfl
  | unfinished stop =>
    have ends := head _ _ stop agree
    cases result <;> cases ends

/-- Lookups end as the answers resolve the spec. -/
theorem resolveCourse_resolution {answers : Call → Answer} {steps : List Step}
    {outcome : Outcome Resolved} (way : resolveCourse env spec scope steps outcome)
    (agree : Agree env answers steps) :
    outcome = Outcome.ofExcept (resolution answers spec scope) := by
  have evaluates : ∀ {α : Type} (inquiry : Inquiry α) (stage : Stage) (steps : List Step)
      (outcome : Outcome α), inquiry.course env (Step.mk stage) steps outcome →
        Agree env answers steps → outcome = Outcome.ofExcept (inquiry.evaluate answers) := by
    intro α inquiry stage steps outcome way agree
    have marked : ∀ world call, Step.exchange env ⟨stage, world, call⟩ = env.exchange world call :=
      fun _ _ => rfl
    exact Inquiry.course_evaluate marked way agree
  refine then_evaluate way agree (evaluates _ _) fun origin _ _ way agree => ?_
  refine then_evaluate way agree (evaluates _ _) fun internal _ _ way agree => ?_
  refine then_evaluate way agree (evaluates _ _) fun external _ _ silent _ => ?_
  exact silent.2

/-- A dry run looks up and composes. -/
def planCourse (env : Environment) (spec : MachineSpec) (scope : Scope)
    (rules : List FirewallRule) : Course Step InsertRequest :=
  Course.Then (resolveCourse env spec scope) fun resolved =>
    Course.silent (InsertRequest.assemble spec scope resolved (rules.map FirewallRule.targetTag))

/-- A dry run of a valid spec takes the course of its lookups. -/
theorem plan_follows (env : Environment) {spec : MachineSpec} {rules : List FirewallRule}
    (valid : spec.check = .ok ()) (complete : spec.rules = .ok rules) :
    (plan env spec).Follows (Step.exchange env)
      (planCourse env spec (spec.scope env.project) rules) := by
  have begins : plan env spec = do
      let resolved ← resolve env spec (spec.scope env.project)
      return InsertRequest.assemble spec (spec.scope env.project) resolved
        (rules.map FirewallRule.targetTag) := by
    funext world
    simp only [plan, checkSpec, rulesOf, valid, complete]
    rfl
  rw [begins]
  exact (resolve_follows env spec _).bind fun resolved => Work.follows_pure _ ⟨rfl, rfl⟩

/-- A spec that fails its check ends the dry run at once. -/
theorem plan_of_invalid {spec : MachineSpec} {cause : SpecError}
    (invalid : spec.check = .error cause) : plan env spec = Work.fail (.invalid cause) := by
  funext world
  simp only [plan, checkSpec, invalid]
  rfl

/-- A dry run ends as the answers to its lookups lead to. -/
theorem planCourse_resolution {answers : Call → Answer} {rules : List FirewallRule}
    {steps : List Step} {outcome : Outcome InsertRequest}
    (way : planCourse env spec scope rules steps outcome) (agree : Agree env answers steps) :
    outcome = Outcome.ofExcept (do
      let resolved ← resolution answers spec scope
      return InsertRequest.assemble spec scope resolved (rules.map FirewallRule.targetTag)) :=
  then_evaluate way agree (fun _ _ => resolveCourse_resolution) fun _ _ _ silent _ => silent.2

/-- A dry run takes harmless steps, and ends as their course does. -/
theorem plan_harmless (env : Environment) (spec : MachineSpec) (world : World) :
    ∃ steps : List Step,
      (plan env spec).made world = steps.map (Step.exchange env) ∧
      (∀ step ∈ steps, step.call.isPost = false) ∧
      ∀ rules, spec.check = .ok () → spec.rules = .ok rules →
        planCourse env spec (spec.scope env.project) rules steps (plan env spec world).1 := by
  cases valid : spec.check with
  | error cause =>
    refine ⟨[], Work.made_eq ?_, by simp, fun rules accepted => by cases accepted⟩
    rw [plan_of_invalid valid]
    exact (List.append_nil _).symm
  | ok value =>
    obtain ⟨-, rules, complete⟩ := rules_of_check valid
    obtain ⟨steps, added, way⟩ := plan_follows env valid complete world
    refine ⟨steps, Work.made_eq added, ?_, fun others _ same => ?_⟩
    · have segment : Segment env (fun stage => stage.Asks spec (spec.scope env.project)) 0 3 steps
          (plan env spec world).1 := by
        refine Segment.ofThen way (fun _ _ way => resolveCourse_segment way)
          (fun _ _ _ silent => ?_) (Nat.zero_le 3) (Nat.le_refl 3)
        obtain ⟨rfl, -⟩ := silent
        exact Segment.nil _
      exact segment.harmless (Nat.le_succ 3)
    · rw [complete] at same
      cases same
      exact way

/-- A run that comes to its insert has resolved its spec as the answers to its lookups
lead to, and inserts what it composed of that with the tags of its rules. -/
theorem launchCourse_insert {answers : Call → Answer} {rules : List FirewallRule}
    {steps : List Step} {outcome : Outcome InstanceSummary}
    (way : launchCourse env spec scope rules steps outcome)
    (agree : ∀ exchange ∈ Exchange.lookups (steps.map (Step.exchange env)),
      exchange.answer = answers exchange.call)
    {insert : Step} (member : insert ∈ steps) (stage : insert.stage = .insert) :
    ∃ resolved path, resolution answers spec scope = .ok resolved ∧
      insert.call = .post path (InsertRequest.assemble spec scope resolved
        (rules.map FirewallRule.targetTag)).encode := by
  obtain ⟨lookups, creations, rest, run, tags, rfl, prepared, creating, inserting, last⟩ :=
    launchCourse_late way member (Nat.le_of_eq (by rw [stage]))
  have harmless := (prepareCourse_segment prepared).harmless (Nat.le_refl 4)
  have agreed : Agree env answers lookups := by
    intro step among
    refine agree (step.exchange env) ?_
    rw [List.map_append]
    refine Exchange.mem_lookups_append (List.mem_map_of_mem among) fun other present => ?_
    obtain ⟨source, here, rfl⟩ := List.mem_map.mp present
    exact harmless source here
  obtain ⟨path, call⟩ := inserting.insert_call rfl last stage
  cases prepared with
  | @passed _ _ resolved _ resolving after =>
    cases after with
    | passed asking silent =>
      obtain ⟨-, same⟩ := silent
      cases same
      have resolves := resolveCourse_resolution resolving (Agree.append_iff.mp agreed).1
      refine ⟨resolved, path, ?_, ?_⟩
      · cases result : resolution answers spec scope with
        | ok value =>
          rw [result] at resolves
          cases resolves
          rfl
        | error cause =>
          rw [result] at resolves
          cases resolves
      · rw [call, creating.tags tags rfl, InsertRequest.assemble_foldl_addTag]

/-- A dry run composes what a run inserts, if the provider answers the lookups of both
alike, whichever rules exist already. It changes nothing itself. -/
theorem plan_agrees :
    (∀ (real dry : Environment) (polling : Polling) (signal : Signal) (spec : MachineSpec)
      (session : Session) (world : World) (answers : Call → Answer),
      real.project = dry.project →
      (∀ exchange ∈ Exchange.lookups ((provision real polling signal spec).made session),
        exchange.answer = answers exchange.call) →
      (∀ exchange ∈ (plan dry spec).made world, exchange.answer = answers exchange.call) →
      ∀ exchange ∈ (provision real polling signal spec).made session, ∀ requestId body,
        exchange.call = .post (insertPath (spec.scope real.project) requestId) body →
        ∃ request, (plan dry spec world).1 = .ok request ∧ body = request.encode) ∧
    ∀ (env : Environment) (spec : MachineSpec) (world : World),
      ∀ exchange ∈ (plan env spec).made world, exchange.call.isPost = false := by
  constructor
  · intro real dry polling signal spec session world answers project realAgrees dryAgrees
      exchange member requestId body call
    obtain ⟨steps, added, inOrder, ends⟩ := provision_inOrder real polling signal spec session
    rw [Work.made_eq added] at realAgrees member
    obtain ⟨insert, among, rfl⟩ := List.mem_map.mp member
    have asked := inOrder.asked insert among
    rw [show insert.call = _ from call] at asked
    have stage := Stage.eq_insert_of_asks asked
    rcases ends with ⟨_, _, rfl, _⟩ | ⟨valid, rules, complete, way⟩
    · cases among
    obtain ⟨resolved, path, resolves, inserted⟩ := launchCourse_insert way realAgrees among stage
    obtain ⟨trial, made, -, course⟩ := plan_harmless dry spec world
    rw [made] at dryAgrees
    have agree : Agree dry answers trial := fun step present =>
      dryAgrees (step.exchange dry) (List.mem_map_of_mem present)
    have planned := planCourse_resolution (course rules valid complete) agree
    rw [← project, resolves] at planned
    refine ⟨_, planned, ?_⟩
    exact (Call.post.inj ((show insert.call = _ from call).symm.trans inserted)).2
  · intro env spec world exchange member
    obtain ⟨steps, made, harmless, -⟩ := plan_harmless env spec world
    rw [made] at member
    obtain ⟨step, among, rfl⟩ := List.mem_map.mp member
    exact harmless step among

section Fixed

variable {answers : Call → Answer}

/-- A provider with fixed answers gives them to every run. -/
theorem provision_answers (fixed : ∀ world call, (env.reply world call).answer = answers call)
    (polling : Polling) (signal : Signal) (spec : MachineSpec) (session : Session) :
    ∀ exchange ∈ (provision env polling signal spec).made session,
      exchange.answer = answers exchange.call := by
  obtain ⟨steps, added, -, -⟩ := provision_inOrder env polling signal spec session
  rw [Work.made_eq added]
  exact List.forall_mem_map.mpr fun step _ => fixed step.world step.call

/-- With fixed answers every exchange of a dry run has the one for its call. -/
theorem plan_answers (fixed : ∀ world call, (env.reply world call).answer = answers call)
    (spec : MachineSpec) (world : World) :
    ∀ exchange ∈ (plan env spec).made world, exchange.answer = answers exchange.call := by
  obtain ⟨steps, made, -, -⟩ := plan_harmless env spec world
  rw [made]
  exact List.forall_mem_map.mpr fun step _ => fixed step.world step.call

end Fixed

/-- A finished operation, whatever is asked. -/
def promptAnswer : Call → Answer :=
  fun _ => .ok (.obj [("name", .str "create"), ("status", .str "DONE")])

/-- A provider that answers every call with a finished operation. -/
def promptProvider : Environment where
  project := "demo"
  requestId _ := "id"
  reply _ call := { answer := promptAnswer call }
  pause := Pause.manual
  patience := 1

/-- A machine with a tag that two of its rules repeat. -/
def taggedSpec : MachineSpec where
  instanceName := "web"
  zone := "europe-west1-b"
  machine := { machineType := "e2-small" }
  bootDisk := { source := some (.customImage "base") }
  networking := {
    tags := ["http"]
    firewallRules := [
      { name := "plain", allow := "tcp:80", sourceRanges := "0.0.0.0/0", targetTag := "http" },
      { name := "secure", allow := "tcp:443", sourceRanges := "0.0.0.0/0", targetTag := "http" }] }

/-- Whether a call posts to a path. -/
def postsTo (path : String) : Call → Bool
  | .post target _ => target == path
  | .get _ => false
  | .getUrl _ => false

/-- A call that posts to a path has a body. -/
theorem exists_body_of_postsTo {path : String} {call : Call} (posts : postsTo path call = true) :
    ∃ body, call = .post path body := by
  cases call with
  | post target body => exact ⟨body, congrArg (Call.post · body) (beq_iff_eq.mp posts)⟩
  | get target => cases posts
  | getUrl url => cases posts

/-- A dry run of a spec with repeated tags composes the request that its run sends. -/
theorem plan_agrees_taggedSpec :
    ∃ exchange ∈ (provision promptProvider .standard .never taggedSpec).made
        (.start Catalog.defaultTtl),
      ∃ body request,
        exchange.call = .post (insertPath (taggedSpec.scope promptProvider.project) "id") body ∧
        (plan promptProvider taggedSpec {}).1 = .ok request ∧ body = request.encode := by
  have inserts : ((provision promptProvider .standard .never taggedSpec).made
      (.start Catalog.defaultTtl)).any (fun exchange =>
        postsTo (insertPath (taggedSpec.scope promptProvider.project) "id") exchange.call) =
      true := by
    decide +kernel
  obtain ⟨exchange, member, posts⟩ := List.any_eq_true.mp inserts
  obtain ⟨body, call⟩ := exists_body_of_postsTo posts
  have fixed : ∀ world call, (promptProvider.reply world call).answer = promptAnswer call :=
    fun _ _ => rfl
  have answered := provision_answers fixed .standard .never taggedSpec (.start Catalog.defaultTtl)
  obtain ⟨request, planned, same⟩ := plan_agrees.1 promptProvider promptProvider .standard .never
    taggedSpec (.start Catalog.defaultTtl) {} promptAnswer rfl
    (fun other among => answered other (Exchange.mem_of_mem_lookups among))
    (plan_answers fixed taggedSpec {}) exchange member "id" body call
  exact ⟨exchange, member, body, request, call, planned, same⟩

end Launch

end VmLaunch
