import Mathlib.Data.List.Nodup
import VmLaunch.Proofs.Firewall.Conflict
import VmLaunch.Proofs.Launch.DryRun

/-!
# Which rules a provider keeps

A provider keeps rules by their names: the first body that is sent under a name stays, and
every later one meets a conflict. A conflict counts as success, so rules are always created,
but a rule is in force only if no rule of the same name came before it with another body.
-/

namespace VmLaunch.Firewall

/-- The call that asks to keep a body as a rule of a project. -/
def submission (project : String) (body : Json) : Call :=
  .post (globalParent project "firewalls") body

/-- A provider that keeps the rules of a project by their names. -/
structure Keeper (env : Environment) (project : String) where
  /-- The body that is kept under a name. -/
  kept : World → String → Option Json
  /-- A body under a new name is accepted and kept. -/
  stores : ∀ (world : World) (name : String) (body : Json),
    body.get? "name" = some (.str name) → kept world name = none →
      (∃ value, (env.reply world (submission project body)).answer = .ok value) ∧
      ∀ other, kept (world.afterCall (submission project body)
        (env.reply world (submission project body))) other =
          if other = name then some body else kept world other
  /-- A body under a known name meets a conflict and changes nothing. -/
  refuses : ∀ (world : World) (name : String) (body held : Json),
    body.get? "name" = some (.str name) → kept world name = some held →
      (∃ text, (env.reply world (submission project body)).answer =
        HttpResponse.answer ⟨Status.conflict, text⟩) ∧
      ∀ other, kept (world.afterCall (submission project body)
        (env.reply world (submission project body))) other = kept world other

/-- What a rule asks the provider to keep. -/
def ruleBody (project network : String) (rule : FirewallRule) : Json :=
  (rule.payload project network).encode

theorem createCall_eq_submission (project network : String) (rule : FirewallRule) :
    createCall project network rule = submission project (ruleBody project network rule) :=
  rfl

/-- What the first of several rules with a name asks the provider to keep under it. -/
def wanted (project network : String) (rules : List FirewallRule) (name : String) :
    Option Json :=
  (rules.find? fun rule => rule.name == name).map (ruleBody project network)

section Wanted

variable {project network : String}

@[simp]
theorem wanted_nil (name : String) : wanted project network [] name = none :=
  rfl

/-- The body wanted under a name is that of the first rule with the name. -/
theorem wanted_cons (rule : FirewallRule) (rest : List FirewallRule) (name : String) :
    wanted project network (rule :: rest) name =
      if rule.name = name then some (ruleBody project network rule)
      else wanted project network rest name := by
  unfold wanted
  by_cases same : rule.name = name
  · rw [List.find?_cons_of_pos (by simpa using same), if_pos same]
    rfl
  · rw [List.find?_cons_of_neg (by simpa using same), if_neg same]

/-- Among rules of which no two ask for different bodies under one name, each gets its own. -/
theorem wanted_eq_ruleBody_iff (rules : List FirewallRule) :
    (∀ rule ∈ rules,
        wanted project network rules rule.name = some (ruleBody project network rule)) ↔
      ∀ first ∈ rules, ∀ second ∈ rules, first.name = second.name →
        ruleBody project network first = ruleBody project network second := by
  constructor
  · intro each first among second present same
    have former := each first among
    have latter := each second present
    rw [same, latter] at former
    exact (Option.some.inj former).symm
  · intro agree rule among
    have exists_first : (rules.find? fun other => other.name == rule.name).isSome := by
      rw [List.find?_isSome]
      exact ⟨rule, among, beq_self_eq_true rule.name⟩
    obtain ⟨first, found⟩ := Option.isSome_iff_exists.mp exists_first
    have named : first.name = rule.name := by
      simpa using List.find?_some found
    unfold wanted
    rw [found, Option.map_some, agree first (List.mem_of_find?_eq_some found) rule among named]

end Wanted

section Keeping

variable {env : Environment} {project : String}

/-- A body that is sent is accepted or meets a conflict. Afterwards each name holds what it
held before or else, if it is the name that was sent, the body. -/
theorem Keeper.submitted (keeper : Keeper env project) (world : World) {name : String}
    {body : Json} (named : body.get? "name" = some (.str name)) :
    (∀ fault, (env.reply world (submission project body)).answer = .error fault →
      alreadyExists fault = true) ∧
    ∀ other, keeper.kept (world.afterCall (submission project body)
      (env.reply world (submission project body))) other =
        (keeper.kept world other).or (if name = other then some body else none) := by
  cases held : keeper.kept world name with
  | none =>
    obtain ⟨⟨value, accepted⟩, after⟩ := keeper.stores world name body named held
    constructor
    · intro fault answered
      rw [accepted] at answered
      cases answered
    · intro other
      rw [after other]
      by_cases same : name = other
      · rw [if_pos same.symm, if_pos same, ← same, held, Option.none_or]
      · rw [if_neg (Ne.symm same), if_neg same, Option.or_none]
  | some known =>
    obtain ⟨⟨text, refused⟩, after⟩ := keeper.refuses world name body known named held
    constructor
    · intro fault answered
      obtain ⟨conflict, reported, present⟩ := alreadyExists_of_conflict text
      rw [refused, reported] at answered
      cases answered
      exact present
    · intro other
      rw [after other]
      by_cases same : name = other
      · rw [← same, held, Option.some_or]
      · rw [if_neg same, Option.or_none]

/-- A call that is accepted, or refused because the rule exists, creates the rule. -/
theorem create_of_passes {network : String} {rule : FirewallRule} {world : World}
    (passes : ∀ fault, (env.reply world (createCall project network rule)).answer = .error fault →
      alreadyExists fault = true) :
    create env project network rule world =
      (.ok (), world.afterCall (createCall project network rule)
        (env.reply world (createCall project network rule))) := by
  rw [Launch.create_eq_ask, Work.ask_apply]
  cases answered : (env.reply world (createCall project network rule)).answer with
  | ok value => rfl
  | error fault =>
    simp only [Launch.ruleJudge, passes fault answered, if_true]
    rfl

/-- The creation of one rule always succeeds. It adds the body of the rule unless another is
kept under its name. -/
theorem create_keeps (keeper : Keeper env project) (network : String) (rule : FirewallRule)
    (world : World) :
    ∃ later, create env project network rule world = (.ok (), later) ∧
      ∀ name, keeper.kept later name = (keeper.kept world name).or
        (if rule.name = name then some (ruleBody project network rule) else none) := by
  have named : (ruleBody project network rule).get? "name" = some (.str rule.name) := rfl
  obtain ⟨passes, after⟩ := keeper.submitted world named
  rw [← createCall_eq_submission] at passes after
  exact ⟨_, create_of_passes passes, after⟩

/-- Rules that are created in turn leave, under each name, what was kept there before or
else what the first rule of that name asks for. -/
theorem createAll_keeps (keeper : Keeper env project) (network : String)
    (rules : List FirewallRule) (tags : List String) (world : World) :
    ∃ later, createAll env project network tags rules world =
        (.ok ((rules.map FirewallRule.targetTag).foldl addTag tags), later) ∧
      ∀ name, keeper.kept later name =
        (keeper.kept world name).or (wanted project network rules name) := by
  induction rules generalizing tags world with
  | nil =>
    refine ⟨world, rfl, fun name => ?_⟩
    rw [wanted_nil, Option.or_none]
  | cons rule rest inductionHypothesis =>
    obtain ⟨middle, created, holds⟩ := create_keeps keeper network rule world
    obtain ⟨later, onward, holdsLater⟩ :=
      inductionHypothesis (addTag tags rule.targetTag) middle
    refine ⟨later, ?_, fun name => ?_⟩
    · unfold createAll
      rw [Work.bind_of_ok created]
      exact onward
    · -- A name that the first rule takes is not free for the rest: the earlier body stays.
      rw [holdsLater name, holds name, wanted_cons]
      by_cases same : rule.name = name
      · rw [if_pos same, if_pos same, Option.or_assoc, Option.some_or]
      · rw [if_neg same, if_neg same, Option.or_none]

/-- Where no name of a rule was taken, each name holds what its first rule asks for. -/
theorem ensure_keeps (keeper : Keeper env project) (network : String)
    (rules : List FirewallRule) (world : World)
    (vacant : ∀ rule ∈ rules, keeper.kept world rule.name = none) :
    ∃ later, ensure env project network rules world =
        (.ok ((rules.map FirewallRule.targetTag).foldl addTag []), later) ∧
      ∀ rule ∈ rules, keeper.kept later rule.name = wanted project network rules rule.name := by
  obtain ⟨later, created, holds⟩ := createAll_keeps keeper network rules [] world
  refine ⟨later, created, fun rule member => ?_⟩
  rw [holds, vacant rule member, Option.none_or]

/-- The rules of a valid spec whose names are free are always created, and the provider keeps
every one of them exactly when no two rules of one name ask for different bodies. -/
theorem ensure_keeps_all_iff {env : Environment} {project : String} (keeper : Keeper env project)
    {spec : MachineSpec} (valid : spec.check = .ok ()) (network : String) (world : World) :
    ∃ rules, spec.rules = .ok rules ∧
      ((∀ rule ∈ rules, keeper.kept world rule.name = none) →
        ∃ tags later, ensure env project network rules world = (.ok tags, later) ∧
          ((∀ rule ∈ rules,
              keeper.kept later rule.name = some (rule.payload project network).encode) ↔
            ∀ first ∈ rules, ∀ second ∈ rules, first.name = second.name →
              (first.payload project network).encode =
                (second.payload project network).encode)) := by
  obtain ⟨-, rules, complete⟩ := Launch.rules_of_check valid
  refine ⟨rules, complete, fun vacant => ?_⟩
  obtain ⟨later, created, holds⟩ := ensure_keeps keeper network rules world vacant
  refine ⟨_, later, created, ?_⟩
  have same : (∀ rule ∈ rules, keeper.kept later rule.name = some (ruleBody project network rule)) ↔
      ∀ rule ∈ rules,
        wanted project network rules rule.name = some (ruleBody project network rule) := by
    constructor
    · intro each rule member
      rw [← holds rule member]
      exact each rule member
    · intro each rule member
      rw [holds rule member]
      exact each rule member
  exact same.trans (wanted_eq_ruleBody_iff rules)

end Keeping

/-- The body of a call that sends a rule under a name. -/
def sentRule? (project name : String) : Call → Option Json
  | .post path body =>
    if path = globalParent project "firewalls" ∧
        (body.get? "name").bind Json.text? = some name then some body
    else none
  | .get _ => none
  | .getUrl _ => none

/-- The first body that was sent under a name. -/
def firstSent? (project : String) (world : World) (name : String) : Option Json :=
  world.calls.findSome? (sentRule? project name)

/-- A conflict as the provider words it. -/
def conflictResponse (name : String) : HttpResponse where
  status := Status.conflict
  body := "The resource " ++ name ++ " already exists"

/-- A provider that keeps the first body sent under a name. -/
def firstComer (project : String) : Environment where
  project := project
  requestId _ := "id"
  reply world call :=
    match call with
    | .post _ body =>
      match (body.get? "name").bind Json.text? with
      | some name =>
        if (firstSent? project world name).isSome then
          { answer := (conflictResponse name).answer }
        else { answer := .ok (.obj [("status", .str "DONE")]) }
      | none => { answer := .ok .null }
    | .get _ => { answer := .ok .null }
    | .getUrl _ => { answer := .ok .null }
  pause := Pause.manual
  patience := 1

/-- The rule that was first sent under a name stays the first; without one it is what the call
sends. -/
theorem firstSent?_afterCall (project name : String) (world : World) (call : Call)
    (reply : Reply) : firstSent? project (world.afterCall call reply) name =
      (firstSent? project world name).or (sentRule? project name call) := by
  unfold firstSent? World.calls World.afterCall
  rw [List.map_append, List.findSome?_append]
  congr 1
  simp

/-- A submission sends the rule that its body names. -/
theorem sentRule?_submission {project name other : String} {body : Json}
    (named : body.get? "name" = some (.str name)) :
    sentRule? project other (submission project body) =
      if other = name then some body else none := by
  unfold sentRule? submission
  simp only [named, Option.bind_some, Json.text?, true_and, Option.some.injEq, eq_comm]

/-- The first body under a name is what such a provider keeps. -/
def firstComerKeeper (project : String) : Keeper (firstComer project) project where
  kept world name := firstSent? project world name
  stores world name body named vacant := by
    have answered : ((firstComer project).reply world (submission project body)).answer =
          .ok (.obj [("status", .str "DONE")]) := by
      simp [firstComer, submission, named, Json.text?, vacant]
    refine ⟨⟨_, answered⟩, fun other => ?_⟩
    rw [firstSent?_afterCall, sentRule?_submission named]
    by_cases same : other = name
    · rw [same, vacant, Option.none_or]
    · rw [if_neg same, if_neg same, Option.or_none]
  refuses world name body held named taken := by
    have answered : ((firstComer project).reply world (submission project body)).answer =
          (conflictResponse name).answer := by
      simp [firstComer, submission, named, Json.text?, taken]
    refine ⟨⟨_, answered⟩, fun other => ?_⟩
    rw [firstSent?_afterCall, sentRule?_submission named]
    by_cases same : other = name
    · rw [same, taken, Option.some_or]
    · rw [if_neg same, Option.or_none]

/-- A result that yields a value is that value. -/
theorem eq_ok_of_toOption {ε α : Type} {result : Except ε α} {value : α}
    (read : result.toOption = some value) : result = .ok value := by
  cases result with
  | error cause => cases read
  | ok other => exact congrArg Except.ok (Option.some.inj read)

/-- The rules of a spec whose names differ are all kept by a provider that knew none. -/
theorem ensure_keeps_all_iff_taggedSpec :
    Launch.taggedSpec.check = .ok () ∧
      ∃ rules tags later, Launch.taggedSpec.rules = .ok rules ∧ rules.length = 2 ∧
        (∀ rule ∈ rules, firstSent? "demo" {} rule.name = none) ∧
        ensure (firstComer "demo") "demo" "default" rules {} = (.ok tags, later) ∧
        ∀ rule ∈ rules,
          firstSent? "demo" later rule.name = some (rule.payload "demo" "default").encode := by
  have valid : Launch.taggedSpec.check = .ok () := eq_ok_of_toOption (by decide +kernel)
  have names : Launch.taggedSpec.rules.toOption.map (List.map FirewallRule.name) =
      some ["plain", "secure"] := by
    decide +kernel
  obtain ⟨rules, complete, keeps⟩ :=
    ensure_keeps_all_iff (firstComerKeeper "demo") valid "default" {}
  rw [complete] at names
  have named : rules.map FirewallRule.name = ["plain", "secure"] := Option.some.inj names
  have distinct : (rules.map FirewallRule.name).Nodup := by
    rw [named]
    decide
  have vacant : ∀ rule ∈ rules, firstSent? "demo" {} rule.name = none := fun _ _ => rfl
  obtain ⟨tags, later, created, kept⟩ := keeps vacant
  refine ⟨valid, rules, tags, later, complete, ?_, vacant, created, kept.mpr ?_⟩
  · simpa using congrArg List.length named
  · intro first among second present same
    rw [List.inj_on_of_nodup_map distinct among present same]

/-- A machine with two rules of one name. -/
def twinSpec : MachineSpec :=
  { Launch.taggedSpec with
    networking := {
      firewallRules := [
        { name := "web", allow := "tcp:80", sourceRanges := "0.0.0.0/0", targetTag := "http" },
        { name := "web", allow := "tcp:443", sourceRanges := "0.0.0.0/0", targetTag := "https" }] } }

/-- A rule that lets a port in for a tag. -/
def portRule (port tag : String) : FirewallRule where
  name := "web"
  allowed := [⟨"tcp", [port]⟩]
  sourceRanges := ["0.0.0.0/0"]
  targetTag := tag
  network := none
  priority := FirewallRule.defaultPriority
  description := none

/-- The twin spec has two rules of one name. -/
theorem twinSpec_rules :
    twinSpec.rules = .ok [portRule "80" "http", portRule "443" "https"] := by
  have read : twinSpec.rules.toOption = some [portRule "80" "http", portRule "443" "https"] := by
    decide +kernel
  exact eq_ok_of_toOption read

/-- A valid spec may have rules that are created and yet not kept: the second of two rules of
one name meets the conflict that the first has caused. -/
theorem not_ensure_keeps_all :
    ¬ ∀ (env : Environment) (project : String) (keeper : Keeper env project) (spec : MachineSpec)
        (rules : List FirewallRule) (network : String) (world later : World) (tags : List String),
        spec.check = .ok () → spec.rules = .ok rules →
        (∀ rule ∈ rules, keeper.kept world rule.name = none) →
        ensure env project network rules world = (.ok tags, later) →
        ∀ rule ∈ rules,
          keeper.kept later rule.name = some (rule.payload project network).encode := by
  intro always
  have valid : twinSpec.check = .ok () := eq_ok_of_toOption (by decide +kernel)
  have vacant : ∀ rule ∈ [portRule "80" "http", portRule "443" "https"],
      (firstComerKeeper "demo").kept {} rule.name = none := fun _ _ => rfl
  obtain ⟨later, created, holds⟩ :=
    ensure_keeps (firstComerKeeper "demo") "default" _ {} vacant
  have second : portRule "443" "https" ∈ [portRule "80" "http", portRule "443" "https"] := by simp
  have claimed := always _ _ (firstComerKeeper "demo") twinSpec _ "default" {} later _ valid
    twinSpec_rules vacant created _ second
  rw [holds _ second] at claimed
  have same : ruleBody "demo" "default" (portRule "80" "http") =
      ruleBody "demo" "default" (portRule "443" "https") := Option.some.inj claimed
  have tags := congrArg (Json.get? "targetTags") same
  have distinct : "http" ≠ "https" := by decide
  exact distinct (Json.str.inj (List.cons.inj (Json.arr.inj (Option.some.inj tags))).1)

end VmLaunch.Firewall
