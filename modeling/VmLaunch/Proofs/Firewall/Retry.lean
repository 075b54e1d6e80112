import VmLaunch.Proofs.Firewall.Kept
import VmLaunch.Proofs.Request.Tags

/-!
# Creating rules again

`Sent` says which rules a run has sent and why it stopped. A run that was refused can be made
again, as often as it takes: against a provider that keeps rules by name nothing that was created
is changed, and a run that succeeds yields the tags that any other success yields.
-/

namespace VmLaunch.Firewall

/-- Whether a rule counts as created after an answer. -/
def Passes (answer : Answer) : Prop :=
  ∀ fault, answer = .error fault → alreadyExists fault = true

/-- Why a run stops: it does not, or a rule is refused. -/
abbrev Refusal := Option (FirewallRule × Fault)

/-- How a run ends. -/
def verdict (rules : List FirewallRule) : Refusal → Outcome (List String)
  | none => .ok (rules.map FirewallRule.targetTag).eraseDups
  | some (rule, fault) => .error (.provider (.createRule rule.name) fault)

/-- The exchanges of a run: rules are sent in order, up to and including the first that is
refused. -/
inductive Sent (project network : String) (rules : List FirewallRule) :
    List Exchange → Refusal → Prop where
  | all {made}
      (calls : made.map Exchange.call = rules.map (createCall project network))
      (passed : ∀ exchange ∈ made, Passes exchange.answer) :
      Sent project network rules made none
  | upTo {before rule after made last fault}
      (split : rules = before ++ rule :: after)
      (calls : made.map Exchange.call = before.map (createCall project network))
      (passed : ∀ exchange ∈ made, Passes exchange.answer)
      (call : last.call = createCall project network rule)
      (answered : last.answer = .error fault)
      (foreign : alreadyExists fault = false) :
      Sent project network rules (made ++ [last]) (some (rule, fault))

/-- A rule that passes is sent in front of what is sent next. -/
theorem Sent.cons {project network : String} {rule : FirewallRule} {rest : List FirewallRule}
    {first : Exchange} {made : List Exchange} {refusal : Refusal}
    (call : first.call = createCall project network rule) (passes : Passes first.answer)
    (sent : Sent project network rest made refusal) :
    Sent project network (rule :: rest) (first :: made) refusal := by
  cases sent with
  | all calls passed =>
    refine .all ?_ (List.forall_mem_cons.mpr ⟨passes, passed⟩)
    rw [List.map_cons, List.map_cons, call, calls]
  | @upTo before refused after _ _ _ split calls passed lastCall answered foreign =>
    have longer : rule :: rest = (rule :: before) ++ refused :: after :=
      congrArg (rule :: ·) split
    rw [← List.cons_append]
    refine .upTo longer ?_ (List.forall_mem_cons.mpr ⟨passes, passed⟩) lastCall answered foreign
    rw [List.map_cons, List.map_cons, call, calls]

section Sending

variable {env : Environment} {project network : String}

/-- The world after a rule was sent. -/
def afterRule (env : Environment) (project network : String) (rule : FirewallRule)
    (world : World) : World :=
  world.afterCall (createCall project network rule)
    (env.reply world (createCall project network rule))

/-- What the provider answers to a rule. -/
def ruleAnswer (env : Environment) (project network : String) (rule : FirewallRule)
    (world : World) : Answer :=
  (env.reply world (createCall project network rule)).answer

/-- Rules are sent from world to world until one is refused. -/
inductive Sends (env : Environment) (project network : String) :
    World → List FirewallRule → List Exchange → Refusal → World → Prop where
  | done {world} : Sends env project network world [] [] none world
  | refused {world rule rest fault}
      (answered : ruleAnswer env project network rule world = .error fault)
      (foreign : alreadyExists fault = false) :
      Sends env project network world (rule :: rest)
        [env.exchange world (createCall project network rule)] (some (rule, fault))
        (afterRule env project network rule world)
  | passed {world rule rest made refusal later}
      (passes : Passes (ruleAnswer env project network rule world))
      (after : Sends env project network (afterRule env project network rule world) rest made
        refusal later) :
      Sends env project network world (rule :: rest)
        (env.exchange world (createCall project network rule) :: made) refusal later

/-- A call that is refused for another reason than that the rule exists ends the run. -/
theorem create_of_foreign {rule : FirewallRule} {world : World} {fault : Fault}
    (answered : ruleAnswer env project network rule world = .error fault)
    (foreign : alreadyExists fault = false) :
    create env project network rule world =
      (.error (.provider (.createRule rule.name) fault),
        afterRule env project network rule world) := by
  unfold ruleAnswer at answered
  rw [Launch.create_eq_ask, Work.ask_apply, answered]
  simp only [Launch.ruleJudge, foreign]
  rfl

/-- The creation of rules sends them in turn. -/
theorem createAll_sends (env : Environment) (project network : String)
    (rules : List FirewallRule) (tags : List String) (world : World) :
    ∃ made refusal later, Sends env project network world rules made refusal later ∧
      createAll env project network tags rules world =
        (match refusal with
          | none => .ok ((rules.map FirewallRule.targetTag).foldl addTag tags)
          | some (rule, fault) => .error (.provider (.createRule rule.name) fault), later) := by
  induction rules generalizing tags world with
  | nil => exact ⟨[], none, world, .done, rfl⟩
  | cons rule rest inductionHypothesis =>
    unfold createAll
    by_cases passes : Passes (ruleAnswer env project network rule world)
    · obtain ⟨made, refusal, later, sends, ends⟩ :=
        inductionHypothesis (addTag tags rule.targetTag)
          (afterRule env project network rule world)
      refine ⟨_, refusal, later, .passed passes sends, ?_⟩
      rw [Work.bind_of_ok (create_of_passes passes)]
      exact ends
    · obtain ⟨fault, answered, foreign⟩ : ∃ fault,
          ruleAnswer env project network rule world = .error fault ∧
            alreadyExists fault = false := by
        simpa [Passes] using passes
      exact ⟨_, some (rule, fault), _, .refused answered foreign,
        Work.bind_of_error (create_of_foreign answered foreign)⟩

/-- A run sends its rules in turn and ends as its refusal says. -/
theorem ensure_sends (env : Environment) (project network : String)
    (rules : List FirewallRule) (world : World) :
    ∃ made refusal later, Sends env project network world rules made refusal later ∧
      ensure env project network rules world = (verdict rules refusal, later) := by
  obtain ⟨made, refusal, later, sends, ends⟩ :=
    createAll_sends env project network rules [] world
  refine ⟨made, refusal, later, sends, ends.trans ?_⟩
  rw [foldl_addTag]
  cases refusal <;> rfl

/-- What was sent is added to the history. -/
theorem Sends.history {world later : World} {rules : List FirewallRule} {made : List Exchange}
    {refusal : Refusal} (sends : Sends env project network world rules made refusal later) :
    later.history = world.history ++ made := by
  induction sends with
  | done => exact (List.append_nil _).symm
  | refused => rfl
  | passed _ _ inductionHypothesis =>
    rw [inductionHypothesis]
    exact List.append_assoc _ _ _

/-- Rules that are sent from world to world are sent in order. -/
theorem Sends.sent {world later : World} {rules : List FirewallRule} {made : List Exchange}
    {refusal : Refusal} (sends : Sends env project network world rules made refusal later) :
    Sent project network rules made refusal := by
  induction sends with
  | done => exact .all rfl (by simp)
  | @refused world rule rest fault answered foreign =>
    have first : Sent project network (rule :: rest)
        ([] ++ [env.exchange world (createCall project network rule)]) (some (rule, fault)) :=
      .upTo (List.nil_append _).symm rfl (by simp) rfl answered foreign
    exact first
  | passed passes _ inductionHypothesis => exact .cons rfl passes inductionHypothesis

end Sending

/-- A provider that keeps the rules of a project by their names. A body under a known name meets a
conflict. A body under a new name may be refused for any reason, and is kept if it is accepted. -/
structure Register (env : Environment) (project : String) where
  /-- The body that is kept under a name. -/
  kept : World → String → Option Json
  known : ∀ (world : World) (name : String) (body held : Json),
    body.get? "name" = some (.str name) → kept world name = some held →
      (∃ text, (env.reply world (submission project body)).answer =
        HttpResponse.answer ⟨Status.conflict, text⟩) ∧
      ∀ other, kept (world.afterCall (submission project body)
        (env.reply world (submission project body))) other = kept world other
  vacant : ∀ (world : World) (name : String) (body : Json),
    body.get? "name" = some (.str name) → kept world name = none →
      (∀ other, other ≠ name → kept (world.afterCall (submission project body)
        (env.reply world (submission project body))) other = kept world other) ∧
      (∀ value, (env.reply world (submission project body)).answer = .ok value →
        kept (world.afterCall (submission project body)
          (env.reply world (submission project body))) name = some body)

section Registered

variable {env : Environment} {project network : String} (register : Register env project)
  {rule : FirewallRule} {world later : World} {name : String} {body : Json}

/-- A rule that is sent concerns no other name. -/
theorem Register.spares (other : name ≠ rule.name) :
    register.kept (afterRule env project network rule world) name = register.kept world name := by
  have named : (ruleBody project network rule).get? "name" = some (.str rule.name) := rfl
  cases taken : register.kept world rule.name with
  | some known => exact (register.known world _ _ known named taken).2 name
  | none => exact (register.vacant world _ _ named taken).1 name other

/-- A rule that is sent leaves what is kept as it is. -/
theorem Register.keeps (held : register.kept world name = some body) :
    register.kept (afterRule env project network rule world) name = some body := by
  have named : (ruleBody project network rule).get? "name" = some (.str rule.name) := rfl
  by_cases same : name = rule.name
  · subst same
    exact ((register.known world _ _ body named held).2 _).trans held
  · exact (register.spares same).trans held

/-- A rule that is accepted is kept. -/
theorem Register.accepts {value : Json}
    (accepted : ruleAnswer env project network rule world = .ok value) :
    register.kept (afterRule env project network rule world) rule.name =
      some (ruleBody project network rule) := by
  have named : (ruleBody project network rule).get? "name" = some (.str rule.name) := rfl
  cases taken : register.kept world rule.name with
  | some known =>
    obtain ⟨⟨text, conflict⟩, -⟩ := register.known world _ _ known named taken
    obtain ⟨fault, reported, -⟩ := alreadyExists_of_conflict text
    unfold ruleAnswer at accepted
    rw [createCall_eq_submission, conflict, reported] at accepted
    cases accepted
  | none => exact (register.vacant world _ _ named taken).2 value accepted

/-- A rule whose name is known passes. -/
theorem Register.passes {held : Json} (known : register.kept world rule.name = some held) :
    Passes (ruleAnswer env project network rule world) := by
  have named : (ruleBody project network rule).get? "name" = some (.str rule.name) := rfl
  obtain ⟨⟨text, conflict⟩, -⟩ := register.known world _ _ held named known
  obtain ⟨fault, reported, exists_⟩ := alreadyExists_of_conflict text
  intro other answered
  unfold ruleAnswer at answered
  rw [createCall_eq_submission, conflict, reported] at answered
  cases answered
  exact exists_

variable {rules : List FirewallRule} {made : List Exchange} {refusal : Refusal}

/-- A rule that was kept still is when more are sent. -/
theorem Sends.keeps (sends : Sends env project network world rules made refusal later)
    (held : register.kept world name = some body) : register.kept later name = some body := by
  induction sends with
  | done => exact held
  | refused => exact register.keeps held
  | passed _ _ inductionHypothesis => exact inductionHypothesis (register.keeps held)

/-- Every rule that a run has created is kept when it ends. -/
theorem Sends.created (sends : Sends env project network world rules made refusal later)
    {exchange : Exchange} (among : exchange ∈ made)
    (call : exchange.call = createCall project network rule) {value : Json}
    (accepted : exchange.answer = .ok value) :
    register.kept later rule.name = some (ruleBody project network rule) := by
  induction sends with
  | done => cases among
  | refused answered =>
    rw [List.mem_singleton.mp among] at accepted
    rw [ruleAnswer] at answered
    cases answered.symm.trans accepted
  | @passed world sent rest made refusal later passes after inductionHypothesis =>
    rcases List.mem_cons.mp among with rfl | behind
    · -- The exchange tells the body, and with it the name under which the provider keeps it.
      have same : ruleBody project network sent = ruleBody project network rule :=
        (Call.post.inj call).2
      have named : sent.name = rule.name :=
        Json.str.inj (Option.some.inj (congrArg (Json.get? "name") same))
      have answered : ruleAnswer env project network sent world = .ok value := accepted
      have kept := register.accepts answered
      rw [named, same] at kept
      exact after.keeps register kept
    · exact inductionHypothesis behind

/-- A run is never refused at a rule whose name is known. -/
theorem Sends.unknown {fault : Fault}
    (sends : Sends env project network world rules made (some (rule, fault)) later) :
    register.kept world rule.name = none := by
  generalize stops : some (rule, fault) = refusal at sends
  induction sends with
  | done => cases stops
  | refused answered foreign =>
    cases stops
    refine Option.eq_none_iff_forall_ne_some.mpr fun held known => ?_
    rw [register.passes known fault answered] at foreign
    cases foreign
  | passed _ _ inductionHypothesis =>
    refine Option.eq_none_iff_forall_ne_some.mpr fun held known => ?_
    have later := inductionHypothesis stops
    rw [register.keeps known] at later
    cases later

end Registered

/-- Runs of the same rules, one after the other. Between two of them time may pass, but what the
provider keeps stays. -/
inductive Attempts {env : Environment} {project : String} (register : Register env project)
    (network : String) (rules : List FirewallRule) : World → World → Prop where
  | none {world} : Attempts register network rules world world
  | again {first earlier resumed}
      (prior : Attempts register network rules first earlier)
      (idle : register.kept resumed = register.kept earlier) :
      Attempts register network rules first (ensure env project network rules resumed).2

/-- What the next run does after earlier ones. -/
structure Resumes {env : Environment} {project : String} (register : Register env project)
    (network : String) (rules : List FirewallRule) (first last : World) : Prop where
  /-- Nothing that was ever kept is changed, by the earlier runs or by the next. -/
  keeps : ∀ name body, register.kept first name = some body →
    register.kept last name = some body ∧
      register.kept (ensure env project network rules last).2 name = some body
  /-- Every rule that the next run creates is kept with its own payload. -/
  creates : ∀ exchange ∈ (ensure env project network rules).made last,
    ∀ rule value, exchange.call = createCall project network rule →
      exchange.answer = .ok value →
        register.kept (ensure env project network rules last).2 rule.name =
          some (rule.payload project network).encode
  /-- The next run is refused at a rule only if nothing is kept under its name. -/
  unknown : ∀ rule fault, (ensure env project network rules last).1 =
    .error (.provider (.createRule rule) fault) → register.kept last rule = none
  /-- The next run yields, if it succeeds, what a first run would. -/
  tags : ∀ tags, (ensure env project network rules last).1 = .ok tags →
    tags = (rules.map FirewallRule.targetTag).eraseDups

/-- A rule that was kept still is after any attempts. -/
theorem Attempts.keeps {env : Environment} {project network : String}
    {register : Register env project} {rules : List FirewallRule} {first last : World}
    (attempts : Attempts register network rules first last) {name : String} {body : Json}
    (held : register.kept first name = some body) : register.kept last name = some body := by
  induction attempts with
  | none => exact held
  | @again earlier resumed prior idle inductionHypothesis =>
    obtain ⟨made, refusal, later, sends, ends⟩ := ensure_sends env project network rules resumed
    rw [ends]
    refine sends.keeps register ?_
    rw [idle]
    exact inductionHypothesis

/-- Rules are sent in order up to the first that is refused, which the error names; without a
refusal the run yields the tags of the rules, each once, however each of them came to be. A run
that is made again, after whatever runs before it, changes nothing that was created. -/
theorem ensure_runs (env : Environment) (project network : String) (rules : List FirewallRule) :
    (∀ world, ∃ made refusal,
      (ensure env project network rules world).2.history = world.history ++ made ∧
        Sent project network rules made refusal ∧
          (ensure env project network rules world).1 = verdict rules refusal) ∧
      ∀ (register : Register env project) (first last : World),
        Attempts register network rules first last →
          Resumes register network rules first last := by
  constructor
  · intro world
    obtain ⟨made, refusal, later, sends, ends⟩ := ensure_sends env project network rules world
    rw [ends]
    exact ⟨made, refusal, sends.history, sends.sent, rfl⟩
  · intro register first last attempts
    obtain ⟨made, refusal, later, sends, ends⟩ := ensure_sends env project network rules last
    have added : (ensure env project network rules).made last = made :=
      Work.made_eq (by rw [ends]; exact sends.history)
    refine ⟨fun name body held => ?_, fun exchange among rule value call accepted => ?_,
      fun name fault fails => ?_, fun tags passes => ?_⟩
    · rw [ends]
      exact ⟨attempts.keeps held, sends.keeps register (attempts.keeps held)⟩
    · rw [added] at among
      rw [ends]
      exact sends.created register among call accepted
    · rw [ends] at fails
      cases refusal with
      | none => cases fails
      | some refused =>
        obtain ⟨rule, cause⟩ := refused
        cases fails
        exact sends.unknown register
    · rw [ends] at passes
      cases refusal with
      | none => exact (Outcome.ok.inj passes).symm
      | some refused => cases passes

/-- The body of an accepted exchange that sent a rule under a name. -/
def acceptedRule? (project name : String) (exchange : Exchange) : Option Json :=
  match exchange.answer with
  | .ok _ => sentRule? project name exchange.call
  | .error _ => none

/-- The first body that was accepted under a name. -/
def firstAccepted? (project : String) (world : World) (name : String) : Option Json :=
  world.history.findSome? (acceptedRule? project name)

/-- A provider that keeps the first body that it accepts under a name, but refuses the first call
that it ever gets. -/
def reluctantProvider (project : String) : Environment where
  project := project
  requestId _ := "id"
  reply world call :=
    match call with
    | .post _ body =>
      match (body.get? "name").bind Json.text? with
      | some name =>
        if (firstAccepted? project world name).isSome then
          { answer := (conflictResponse name).answer }
        else if world.history.isEmpty then { answer := forbiddenResponse.answer }
        else { answer := .ok (.obj [("status", .str "DONE")]) }
      | none => { answer := .ok .null }
    | .get _ => { answer := .ok .null }
    | .getUrl _ => { answer := .ok .null }
  pause := Pause.manual
  patience := 1

/-- The rule that was first accepted under a name stays the first; without one it is what the call
has accepted. -/
theorem firstAccepted?_afterCall (project name : String) (world : World) (call : Call)
    (reply : Reply) : firstAccepted? project (world.afterCall call reply) name =
      (firstAccepted? project world name).or
        (acceptedRule? project name ⟨call, reply.answer, world.now⟩) := by
  unfold firstAccepted? World.afterCall
  rw [List.findSome?_append]
  congr 1
  simp

/-- The first accepted body under a name is what such a provider keeps. -/
def reluctantRegister (project : String) : Register (reluctantProvider project) project where
  kept world name := firstAccepted? project world name
  known world name body held named taken := by
    have answered : ((reluctantProvider project).reply world (submission project body)).answer =
        (conflictResponse name).answer := by
      simp [reluctantProvider, submission, named, Json.text?, taken]
    refine ⟨⟨_, answered⟩, fun other => ?_⟩
    obtain ⟨fault, refused, -⟩ := alreadyExists_of_conflict (conflictResponse name).body
    have refuses : (conflictResponse name).answer = .error fault := refused
    rw [firstAccepted?_afterCall]
    unfold acceptedRule?
    rw [answered, refuses, Option.or_none]
  vacant world name body named vacant := by
    constructor
    · intro other apart
      rw [firstAccepted?_afterCall]
      unfold acceptedRule?
      split
      · rw [sentRule?_submission named, if_neg apart, Option.or_none]
      · rw [Option.or_none]
    · intro value accepted
      rw [firstAccepted?_afterCall, vacant, Option.none_or]
      unfold acceptedRule?
      rw [accepted]
      exact (sentRule?_submission named).trans (if_pos rfl)

/-- The reluctant provider forbids the first call, accepts a rule that it does not have and reports
a conflict otherwise. -/
theorem reluctantProvider_answer (project network : String) (rule : FirewallRule) (world : World) :
    ruleAnswer (reluctantProvider project) project network rule world =
      if (firstAccepted? project world rule.name).isSome then (conflictResponse rule.name).answer
      else if world.history.isEmpty then forbiddenResponse.answer
      else .ok (.obj [("status", .str "DONE")]) := by
  have named : (ruleBody project network rule).get? "name" = some (.str rule.name) := rfl
  unfold ruleAnswer
  rw [createCall_eq_submission]
  simp only [reluctantProvider, submission, named, Option.bind_some, Json.text?]
  split
  · rfl
  · split <;> rfl

section Reluctant

variable {rule : FirewallRule} {world : World}

/-- The world after a rule was sent to a reluctant provider. -/
def afterDemo (rule : FirewallRule) (world : World) : World :=
  afterRule (reluctantProvider "demo") "demo" "default" rule world

/-- A run of one rule that passes. -/
theorem ensure_singleton_of_passes
    (passes : Passes (ruleAnswer (reluctantProvider "demo") "demo" "default" rule world)) :
    ensure (reluctantProvider "demo") "demo" "default" [rule] world =
      (.ok [rule.targetTag], afterDemo rule world) :=
  Work.bind_of_ok (create_of_passes passes)

/-- A run that is refused is made again and creates its rule; the run after it finds the rule and
leaves it as it is. -/
theorem ensure_runs_reluctantProvider :
    ∃ fault refused created later,
      ensure (reluctantProvider "demo") "demo" "default" [portRule "80" "http"] {} =
        (.error (.provider (.createRule "web") fault), refused) ∧
      ensure (reluctantProvider "demo") "demo" "default" [portRule "80" "http"] refused =
        (.ok ["http"], created) ∧
      ensure (reluctantProvider "demo") "demo" "default" [portRule "80" "http"] created =
        (.ok ["http"], later) ∧
      firstAccepted? "demo" later "web" =
        some ((portRule "80" "http").payload "demo" "default").encode := by
  have foreign : alreadyExists forbiddenResponse.fault = false := by decide +kernel
  have refused : ruleAnswer (reluctantProvider "demo") "demo" "default" (portRule "80" "http") {} =
      .error forbiddenResponse.fault := by
    rw [reluctantProvider_answer]
    rfl
  have vacant : firstAccepted? "demo" (afterDemo (portRule "80" "http") {})
      (portRule "80" "http").name = none := by
    have answered := refused
    unfold ruleAnswer at answered
    unfold afterDemo afterRule
    rw [firstAccepted?_afterCall, answered]
    rfl
  have accepted : ruleAnswer (reluctantProvider "demo") "demo" "default" (portRule "80" "http")
      (afterDemo (portRule "80" "http") {}) = .ok (.obj [("status", .str "DONE")]) := by
    rw [reluctantProvider_answer, vacant]
    rfl
  have passes : Passes (ruleAnswer (reluctantProvider "demo") "demo" "default"
      (portRule "80" "http") (afterDemo (portRule "80" "http") {})) := by
    rw [accepted]
    exact fun fault failed => nomatch failed
  have kept := (reluctantRegister "demo").accepts accepted
  have known := ensure_singleton_of_passes ((reluctantRegister "demo").passes kept)
  refine ⟨_, _, _, _, Work.bind_of_error (create_of_foreign refused foreign),
    ensure_singleton_of_passes passes, known, ?_⟩
  obtain ⟨-, resumes⟩ := ensure_runs (reluctantProvider "demo") "demo" "default"
    [portRule "80" "http"]
  have stays := ((resumes (reluctantRegister "demo") _ _ .none).keeps _ _ kept).2
  rw [known] at stays
  exact stays

end Reluctant

end VmLaunch.Firewall
