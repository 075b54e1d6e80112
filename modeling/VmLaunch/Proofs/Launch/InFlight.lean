import Mathlib.Logic.Relation
import VmLaunch.Proofs.Launch.Callers

/-!
# Listings in flight

Callers take turns in a `Scene`. The firewall rules that a listing reads after a run were asked for
after the last rule of the run was posted, unless another listing has overtaken the run: it was in
flight when the rule was posted and still when the run dropped the stored rules, and has stored its
own since.
-/

namespace VmLaunch.Launch

variable {ι : Type}

/-- Callers and the session that they share. -/
structure Scene (ι : Type) where
  session : Session
  callers : ι → Caller

namespace Scene

/-- The exchanges made so far. -/
def history (scene : Scene ι) : List Exchange :=
  scene.session.world.history

/-- The scene after a caller has done its next step. -/
def advance [DecidableEq ι] (env : Environment) (scene : Scene ι) (caller : ι) : Scene ι where
  session := ((scene.callers caller).step env scene.session).2
  callers := Function.update scene.callers caller ((scene.callers caller).step env scene.session).1

/-- Whether a caller has missed the stored rules of a project and not stored its own yet. -/
def InFlight (project : String) (scene : Scene ι) (caller : ι) : Prop :=
  ∃ rest, scene.callers caller = .lists project (.walking rest)

end Scene

/-- A caller does its next step, or something happens that has nothing to do with firewall rules:
time passes, a signal fires, or other lists are read. -/
inductive Turn [DecidableEq ι] (env : Environment) : Scene ι → Scene ι → Prop where
  | advances {scene} (caller : ι) : Turn env scene (scene.advance env caller)
  | elsewhere {scene session}
      (spared : session.catalog.firewalls = scene.session.catalog.firewalls)
      (grown : scene.session.world.history <+: session.world.history) :
      Turn env scene { scene with session := session }

/-- Callers have taken turns. -/
abbrev Reaches [DecidableEq ι] (env : Environment) : Scene ι → Scene ι → Prop :=
  Relation.ReflTransGen (Turn env)

/-- Exchanges that were made in turn since a history. -/
def Since (base history exchanges : List Exchange) : Prop :=
  ∃ later, history = base ++ later ∧ exchanges.Sublist later

/-- The empty list of exchanges was made since any beginning of a history. -/
theorem Since.nil {base history : List Exchange} (grown : base <+: history) :
    Since base history [] := by
  obtain ⟨later, rfl⟩ := grown
  exact ⟨later, rfl, List.nil_sublist later⟩

/-- Exchanges made since a history go on with those that are added. -/
theorem Since.append {base history exchanges : List Exchange} (since : Since base history exchanges)
    (more : List Exchange) : Since base (history ++ more) (exchanges ++ more) := by
  obtain ⟨later, rfl, among⟩ := since
  exact ⟨later ++ more, List.append_assoc _ _ _, among.append (List.Sublist.refl more)⟩

/-- Exchanges made since a history still were when it has grown. -/
theorem Since.mono {base history longer exchanges : List Exchange}
    (since : Since base history exchanges) (grown : history <+: longer) :
    Since base longer exchanges := by
  obtain ⟨later, rfl, among⟩ := since
  obtain ⟨more, rfl⟩ := grown
  exact ⟨later ++ more, List.append_assoc _ _ _, among.trans (List.sublist_append_left later more)⟩

/-- Firewall rules of a project that were read off pages asked for since a history. -/
def ReadSince (env : Environment) (project : String) (base history : List Exchange)
    (rules : List ListedRule) : Prop :=
  ∃ pages, Since base history pages ∧
    Page.Walking ListedRule.decode (globalParent project "firewalls") env.patience none [] pages
      (.ok rules)

/-- Rules that were read since a history have been asked for since. -/
theorem ReadSince.exists_asked {env : Environment} {project : String}
    {base later : List Exchange} {rules : List ListedRule}
    (read : ReadSince env project base (base ++ later) rules) :
    ∃ exchange ∈ later, exchange.call = .get (globalParent project "firewalls") := by
  obtain ⟨pages, ⟨_, added, among⟩, walking⟩ := read
  cases List.append_cancel_left added
  obtain ⟨exchange, member, asked⟩ := walking.exists_asked
  exact ⟨exchange, among.subset member, asked⟩

/-- What is left of a walk whose pages were asked for since a history. -/
def WalkedSince (env : Environment) (project : String) (base history : List Exchange)
    (rest : Routine (List ListedRule)) : Prop :=
  ∃ pages, Since base history pages ∧ (Listing.walk env project).Leads pages rest

section Since

variable {env : Environment} {project : String} {base history longer : List Exchange}
  {rules : List ListedRule} {rest : Routine (List ListedRule)}

/-- Rules read since a history still were when it has grown. -/
theorem ReadSince.mono (read : ReadSince env project base history rules)
    (grown : history <+: longer) : ReadSince env project base longer rules := by
  obtain ⟨pages, since, walking⟩ := read
  exact ⟨pages, since.mono grown, walking⟩

/-- A walk under way since a history still is when it has grown. -/
theorem WalkedSince.mono (walked : WalkedSince env project base history rest)
    (grown : history <+: longer) : WalkedSince env project base longer rest := by
  obtain ⟨pages, since, leads⟩ := walked
  exact ⟨pages, since.mono grown, leads⟩

/-- A walk begins with no page. -/
theorem WalkedSince.begin (grown : base <+: history) :
    WalkedSince env project base history (Listing.walk env project) :=
  ⟨[], .nil grown, .here⟩

/-- A walk goes on with the page that it asks for. -/
theorem WalkedSince.step {world : World}
    (walked : WalkedSince env project base world.history rest) :
    WalkedSince env project base (rest.step env world).2.history (rest.step env world).1 := by
  obtain ⟨pages, since, leads⟩ := walked
  obtain ⟨made, added, onward⟩ := rest.exists_leads_step env world
  rw [added]
  exact ⟨pages ++ made, since.append made, leads.trans onward⟩

/-- A walk ends with the rules that it has read. -/
theorem WalkedSince.read (walked : WalkedSince env project base history (.ended (.ok rules))) :
    ReadSince env project base history rules := by
  obtain ⟨pages, since, leads⟩ := walked
  exact ⟨pages, since, Page.walking_of_leads leads⟩

end Since

section Turns

variable [DecidableEq ι] {env : Environment} {project : String} {scene next final : Scene ι}
  {caller other : ι}

/-- A caller that advances has done its next step. -/
@[simp]
theorem Scene.callers_advance_self :
    (scene.advance env caller).callers caller =
      ((scene.callers caller).step env scene.session).1 :=
  Function.update_self ..

/-- A caller that advances moves no other. -/
theorem Scene.callers_advance_of_ne (apart : other ≠ caller) :
    (scene.advance env caller).callers other = scene.callers other :=
  Function.update_of_ne apart ..

/-- A turn is a caller's own or leaves it as it is. -/
theorem Turn.caller_cases (turn : Turn env scene next) (caller : ι) :
    next.callers caller = scene.callers caller ∨ next = scene.advance env caller := by
  cases turn with
  | advances other =>
    by_cases same : caller = other
    · subst same
      exact .inr rfl
    · exact .inl (Scene.callers_advance_of_ne same)
  | elsewhere => exact .inl rfl

/-- A turn stores no firewall rules of a project but those of a walk that has ended. -/
theorem Turn.stores (turn : Turn env scene next) (project : String) :
    StoresNone project scene.session next.session ∨
      ∃ caller rules, scene.callers caller = .lists project (.walking (.ended (.ok rules))) ∧
        next = scene.advance env caller := by
  cases turn with
  | advances caller =>
    rcases (scene.callers caller).step_stores env project scene.session with none | ⟨rules, ended⟩
    · exact .inl none
    · exact .inr ⟨caller, rules, ended, rfl⟩
  | elsewhere spared grown =>
    refine .inl ⟨grown, fun entry found => ?_⟩
    rw [storedRules, spared] at found
    exact found

/-- A walk that has ended is stored. -/
theorem Scene.advance_of_ended {rules : List ListedRule}
    (ended : scene.callers caller = .lists project (.walking (.ended (.ok rules)))) :
    (scene.advance env caller).callers caller = .lists project (.ended (.ok rules)) ∧
      (scene.advance env caller).session =
        Shelf.firewalls.afterStore (Catalog.firewallsKey project) rules scene.session := by
  constructor
  · rw [Scene.callers_advance_self, ended]
    rfl
  · rw [Scene.advance, ended]
    rfl

/-- No turn forgets an exchange. -/
theorem Turn.history (turn : Turn env scene next) : scene.history <+: next.history := by
  rcases turn.stores "" with none | ⟨caller, rules, ended, rfl⟩
  · exact none.history
  · rw [Scene.history, Scene.history, (Scene.advance_of_ended ended).2]
    exact List.prefix_rfl

/-- No turns forget an exchange. -/
theorem Reaches.history (reaches : Reaches env scene final) : scene.history <+: final.history := by
  induction reaches with
  | refl => exact List.prefix_rfl
  | tail _ turn inductionHypothesis => exact inductionHypothesis.trans turn.history

/-- A caller that has changed has done so in a turn of its own. -/
theorem Reaches.exists_advance {stage : Caller} (reaches : Reaches env scene final)
    (before : scene.callers caller = stage) (after : final.callers caller ≠ stage) :
    ∃ middle, Reaches env scene middle ∧ middle.callers caller = stage ∧
      Reaches env (middle.advance env caller) final := by
  induction reaches using Relation.ReflTransGen.head_induction_on with
  | refl => exact absurd before after
  | @head scene next turn onward inductionHypothesis =>
    rcases turn.caller_cases caller with same | rfl
    · obtain ⟨middle, reached, still, rest⟩ := inductionHypothesis (same.trans before)
      exact ⟨middle, .head turn reached, still, rest⟩
    · exact ⟨scene, .refl, before, onward⟩

/-- A run that has ended has ended for good. -/
theorem Reaches.launch_ended {order : Order} {outcome : Outcome InstanceSummary}
    (reaches : Reaches env scene final)
    (ended : scene.callers caller = .launches order (.ended outcome)) :
    final.callers caller = .launches order (.ended outcome) := by
  induction reaches with
  | refl => exact ended
  | tail _ turn inductionHypothesis =>
    rcases turn.caller_cases caller with same | rfl
    · exact same.trans inductionHypothesis
    · rw [Scene.callers_advance_self, inductionHypothesis]
      rfl

end Turns

/-- The walks under way ask for their pages since a history, but those of rivals. -/
def Walks (env : Environment) (project : String) (base : List Exchange) (rival : ι → Prop)
    (scene : Scene ι) : Prop :=
  base <+: scene.history ∧
    ∀ caller rest, scene.callers caller = .lists project (.walking rest) →
      rival caller ∨ WalkedSince env project base scene.history rest

/-- Rules that were asked for since a history, or that a rival has listed. -/
def Accounted (env : Environment) (project : String) (base : List Exchange) (rival : ι → Prop)
    (scene : Scene ι) (rules : List ListedRule) : Prop :=
  ReadSince env project base scene.history rules ∨
    ∃ caller, rival caller ∧ scene.callers caller = .lists project (.ended (.ok rules))

/-- The stored rules are accounted for. -/
def Stores (env : Environment) (project : String) (base : List Exchange) (rival : ι → Prop)
    (scene : Scene ι) : Prop :=
  ∀ entry, storedRules project scene.session = some entry →
    Accounted env project base rival scene entry.value

/-- The rules that a caller has listed are accounted for. -/
def Heard (env : Environment) (project : String) (base : List Exchange) (rival : ι → Prop)
    (call : ι) (scene : Scene ι) : Prop :=
  ∀ rules, scene.callers call = .lists project (.ended (.ok rules)) →
    Accounted env project base rival scene rules

/-- Where no rules are stored all of them are accounted for. -/
theorem Stores.of_none {env : Environment} {project : String} {base : List Exchange}
    {rival : ι → Prop} {scene : Scene ι} (none : storedRules project scene.session = none) :
    Stores env project base rival scene := by
  intro entry found
  rw [none] at found
  cases found

/-- A listing that has not begun has heard nothing that is not accounted for. -/
theorem Heard.of_begun {env : Environment} {project : String} {base : List Exchange}
    {rival : ι → Prop} {call : ι} {scene : Scene ι}
    (begun : scene.callers call = .lists project .begun) :
    Heard env project base rival call scene := by
  intro rules listed
  rw [begun] at listed
  cases listed

section Rivals

variable [DecidableEq ι] {env : Environment} {project : String} {base : List Exchange}
  {rival : ι → Prop} {call : ι} {scene next final : Scene ι} {rules : List ListedRule}

/-- Walks under way still ask for their pages since the history after one more turn. -/
theorem Walks.turn (walks : Walks env project base rival scene) (turn : Turn env scene next) :
    Walks env project base rival next := by
  obtain ⟨grown, onWay⟩ := walks
  have later := grown.trans turn.history
  refine ⟨later, fun caller rest walking => ?_⟩
  rcases turn.caller_cases caller with same | rfl
  · rw [same] at walking
    exact (onWay caller rest walking).imp_right fun walked => walked.mono turn.history
  · rw [Scene.callers_advance_self] at walking
    rcases Caller.step_walking walking with ⟨-, rfl⟩ | ⟨before, was, rfl, world⟩
    · exact .inr (.begin later)
    · have history : (scene.advance env caller).history =
          (before.step env scene.session.world).2.history := congrArg World.history world
      rw [history]
      exact (onWay caller before was).imp_right WalkedSince.step

/-- Rules that are accounted for still are after one more turn. -/
theorem Accounted.turn (accounted : Accounted env project base rival scene rules)
    (turn : Turn env scene next) : Accounted env project base rival next rules := by
  rcases accounted with read | ⟨caller, isRival, listed⟩
  · exact .inl (read.mono turn.history)
  · refine .inr ⟨caller, isRival, ?_⟩
    rcases turn.caller_cases caller with same | rfl
    · exact same.trans listed
    · rw [Scene.callers_advance_self, listed]
      rfl

/-- The rules of a walk that has ended are accounted for when they are stored. -/
theorem Walks.accounted_of_ended (walks : Walks env project base rival scene)
    (ended : scene.callers call = .lists project (.walking (.ended (.ok rules)))) :
    Accounted env project base rival (scene.advance env call) rules := by
  rcases walks.2 call _ ended with isRival | walked
  · exact .inr ⟨call, isRival, (Scene.advance_of_ended ended).1⟩
  · exact .inl (walked.read.mono (Turn.advances call).history)

/-- The stored rules are accounted for after one more turn. -/
theorem Stores.turn (stores : Stores env project base rival scene)
    (walks : Walks env project base rival scene) (turn : Turn env scene next) :
    Stores env project base rival next := by
  intro entry found
  rcases turn.stores project with none | ⟨caller, rules, ended, rfl⟩
  · exact (stores entry (none.stored entry found)).turn turn
  · rw [(Scene.advance_of_ended ended).2] at found
    have value : rules = entry.value :=
      congrArg Stored.value (Option.some.inj ((Cache.stored?_set_self ..).symm.trans found))
    exact value ▸ walks.accounted_of_ended ended

/-- What a listing has heard is accounted for after one more turn. -/
theorem Heard.turn (heard : Heard env project base rival call scene)
    (walks : Walks env project base rival scene) (stores : Stores env project base rival scene)
    (turn : Turn env scene next) : Heard env project base rival call next := by
  intro rules listed
  rcases turn.caller_cases call with same | rfl
  · exact (heard rules (same.symm.trans listed)).turn turn
  · have stepped := Scene.callers_advance_self.symm.trans listed
    rcases Caller.step_listed stepped with before | ended | known
    · exact (heard rules before).turn turn
    · exact walks.accounted_of_ended ended
    · obtain ⟨entry, found, -, rfl⟩ := Cache.peek?_eq_some_iff.mp known
      exact (stores entry found).turn turn

/-- When a run has the next step, the walks under way that began later are no rivals. -/
theorem Walks.advance_launch {run : ι} {order : Order} {launching : Launching}
    (walks : Walks env project base rival scene)
    (launches : scene.callers run = .launches order launching) :
    Walks env project base (fun caller => rival caller ∧ scene.InFlight project caller)
      (scene.advance env run) := by
  have turn : Turn env scene (scene.advance env run) := .advances run
  refine ⟨walks.1.trans turn.history, fun caller rest walking => ?_⟩
  have apart : caller ≠ run := by
    rintro rfl
    rw [Scene.callers_advance_self, launches] at walking
    cases walking
  rw [Scene.callers_advance_of_ne apart] at walking
  rcases walks.2 caller rest walking with isRival | walked
  · exact .inl ⟨isRival, rest, walking⟩
  · exact .inr (walked.mono turn.history)

/-- Walks under way still ask for their pages since the history, however many turns are taken. -/
theorem Reaches.walks (reaches : Reaches env scene final)
    (walks : Walks env project base rival scene) : Walks env project base rival final := by
  induction reaches with
  | refl => exact walks
  | tail _ turn inductionHypothesis => exact inductionHypothesis.turn turn

/-- The stored rules are accounted for, however many turns are taken. -/
theorem Reaches.stores (reaches : Reaches env scene final)
    (walks : Walks env project base rival scene) (stores : Stores env project base rival scene) :
    Stores env project base rival final := by
  induction reaches with
  | refl => exact stores
  | tail prior turn inductionHypothesis =>
    exact inductionHypothesis.turn (Reaches.walks prior walks) turn

/-- What a listing has heard is accounted for, however many turns are taken. -/
theorem Reaches.heard (reaches : Reaches env scene final)
    (walks : Walks env project base rival scene) (stores : Stores env project base rival scene)
    (heard : Heard env project base rival call scene) :
    Heard env project base rival call final := by
  induction reaches with
  | refl => exact heard
  | tail prior turn inductionHypothesis =>
    exact inductionHypothesis.turn (Reaches.walks prior walks) (Reaches.stores prior walks stores)
      turn

end Rivals

section Runs

variable [DecidableEq ι] {env : Environment} {start scene final : Scene ι} {run : ι}
  {order : Order} {prepared : Prepared} {tags : List String}

/-- Whether the rules that a run has left to create are the last of its rules. -/
def Launching.Due : Launching → Prop
  | creating run _ rules => rules <:+ run.rules
  | _ => True

/-- A step of a run leaves the last of its rules to create, or none. -/
theorem Launching.Due.step {launching : Launching} (due : launching.Due) (session : Session) :
    (launching.step env order session).1.Due := by
  cases launching with
  | preparing rest =>
    cases rest with
    | ended outcome =>
      cases outcome with
      | ok run => exact List.suffix_rfl
      | error cause => trivial
      | unfinished => trivial
    | _ => trivial
  | creating run tags rules =>
    cases rules with
    | nil => trivial
    | cons rule rules =>
      have left : rules <:+ run.rules := (List.suffix_cons rule rules).trans due
      simp only [Launching.step]
      split
      · exact left
      · trivial
      · trivial
  | reporting rest => cases rest <;> trivial
  | ended outcome => trivial

/-- In every run that has begun the rules left to create are the last ones. -/
theorem Reaches.due {launching : Launching} (reaches : Reaches env start final)
    (begun : ∀ caller, (start.callers caller).Begun env)
    (launches : final.callers run = .launches order launching) : launching.Due := by
  induction reaches generalizing launching with
  | refl =>
    have first := begun run
    rw [launches] at first
    cases first
    trivial
  | @tail scene next prior turn inductionHypothesis =>
    rcases turn.caller_cases run with same | rfl
    · exact inductionHypothesis (same.symm.trans launches)
    · rw [Scene.callers_advance_self] at launches
      cases before : scene.callers run with
      | lists project listing =>
        rw [before] at launches
        cases launches
      | launches other earlier =>
        rw [before] at launches
        cases launches
        exact (inductionHypothesis before).step scene.session

/-- When a run has created a rule it goes on with the next, or it fails. -/
theorem Launching.step_creating (env : Environment) (order : Order) (run : Prepared)
    (tags : List String) (rule : FirewallRule) (rules : List FirewallRule) (session : Session) :
    ((creating run tags (rule :: rules)).step env order session).1 =
        creating run (Firewall.addTag tags rule.targetTag) rules ∨
      ∃ outcome, ((creating run tags (rule :: rules)).step env order session).1 = ended outcome ∧
        ∀ summary, outcome ≠ .ok summary := by
  rcases made : (Firewall.create env run.scope.project run.network rule).inSession session
    with ⟨outcome, later⟩
  cases outcome with
  | ok value =>
    left
    simp only [step, made]
  | error cause =>
    right
    refine ⟨.error cause, by simp only [step, made], fun summary same => ?_⟩
    cases same
  | unfinished =>
    right
    refine ⟨.unfinished, by simp only [step, made], fun summary same => ?_⟩
    cases same

/-- A run that has succeeded has created every rule that it posted. -/
theorem created_of_succeeded {asking returned : Scene ι} {rule : FirewallRule}
    {rules : List FirewallRule} {summary : InstanceSummary}
    (asks : asking.callers run = .launches order (.creating prepared tags (rule :: rules)))
    (meanwhile : Reaches env (asking.advance env run) returned)
    (succeeded : returned.callers run = .launches order (.ended (.ok summary))) :
    (asking.advance env run).callers run =
      .launches order (.creating prepared (Firewall.addTag tags rule.targetTag) rules) := by
  have stepped : (asking.advance env run).callers run = .launches order
      ((Launching.creating prepared tags (rule :: rules)).step env order asking.session).1 := by
    rw [Scene.callers_advance_self, asks]
    rfl
  rcases Launching.step_creating env order prepared tags rule rules asking.session with
    onward | ⟨outcome, ended, failed⟩
  · exact stepped.trans (congrArg (Caller.launches order) onward)
  · rw [ended] at stepped
    cases (Reaches.launch_ended meanwhile stepped).symm.trans succeeded
    exact absurd rfl (failed summary)

/-- A run that has created its rules drops the stored ones. -/
theorem Scene.advance_of_created (ruled : prepared.rules ≠ [])
    (created : scene.callers run = .launches order (.creating prepared tags [])) :
    storedRules prepared.scope.project (scene.advance env run).session = none := by
  have forgotten : (scene.advance env run).session =
      (forgetRules prepared.scope.project prepared.rules scene.session).2 := by
    rw [Scene.advance, created]
    rfl
  have some : prepared.rules.isEmpty = false := by
    simpa using ruled
  rw [forgotten, forgetRules_apply, some]
  exact Cache.stored?_erase_self _ _

/-- However callers take turns: the firewall rules that a listing of a project ends with, when it
begins after a run in the project has succeeded, were read off pages asked for since the last rule
of the run was posted; or another listing has ended with them that was in flight when this rule had
been posted and still when the run was about to drop the stored rules. -/
theorem listed_since_or_overtaken {asking returned : Scene ι} {call : ι} {rule : FirewallRule}
    {summary : InstanceSummary} {rules : List ListedRule}
    (begun : ∀ caller, (start.callers caller).Begun env) (before : Reaches env start asking)
    (asks : asking.callers run = .launches order (.creating prepared tags [rule]))
    (meanwhile : Reaches env (asking.advance env run) returned)
    (succeeded : returned.callers run = .launches order (.ended (.ok summary)))
    (unbegun : returned.callers call = .lists prepared.scope.project .begun)
    (onward : Reaches env returned final)
    (answered : final.callers call = .lists prepared.scope.project (.ended (.ok rules))) :
    ReadSince env prepared.scope.project (asking.advance env run).history final.history rules ∨
      ∃ dropping created rival, Reaches env (asking.advance env run) dropping ∧
        dropping.callers run = .launches order (.creating prepared created []) ∧
        Reaches env (dropping.advance env run) returned ∧
        (asking.advance env run).InFlight prepared.scope.project rival ∧
        dropping.InFlight prepared.scope.project rival ∧
        final.callers rival = .lists prepared.scope.project (.ended (.ok rules)) := by
  have due : (Launching.creating prepared tags [rule]).Due := before.due begun asks
  have ruled : prepared.rules ≠ [] := by
    intro none
    have last : [rule] <:+ prepared.rules := due
    rw [none] at last
    cases List.suffix_nil.mp last
  have goesOn := created_of_succeeded asks meanwhile succeeded
  obtain ⟨dropping, toDropping, still, toReturned⟩ :=
    Reaches.exists_advance meanwhile goesOn (by rw [succeeded]; nofun)
  -- Every listing under way when the last rule was posted is a rival, until the run drops the
  -- stored rules: then only those that are under way still.
  have posted : Walks env prepared.scope.project (asking.advance env run).history
      ((asking.advance env run).InFlight prepared.scope.project) (asking.advance env run) :=
    ⟨List.prefix_rfl, fun caller rest walking => .inl ⟨rest, walking⟩⟩
  have dropped := (Reaches.walks toDropping posted).advance_launch still
  have none : storedRules prepared.scope.project (dropping.advance env run).session = none :=
    Scene.advance_of_created ruled still
  have heard := Reaches.heard onward (Reaches.walks toReturned dropped)
    (Reaches.stores toReturned dropped (.of_none none)) (.of_begun unbegun)
  rcases heard rules answered with read | ⟨rival, ⟨atPosted, atDropping⟩, listed⟩
  · exact .inl read
  · exact .inr ⟨dropping, _, rival, toDropping, still, toReturned, atPosted, atDropping, listed⟩

end Runs

section Overtaking

/-- The scene after callers have done their next steps in the order of a schedule. -/
def Scene.advances [DecidableEq ι] (env : Environment) (scene : Scene ι) (schedule : List ι) :
    Scene ι :=
  schedule.foldl (advance env) scene

/-- A schedule is a number of turns. -/
theorem reaches_advances [DecidableEq ι] (env : Environment) (scene : Scene ι)
    (schedule : List ι) : Reaches env scene (scene.advances env schedule) := by
  induction schedule generalizing scene with
  | nil => exact .refl
  | cons caller rest inductionHypothesis =>
    exact .head (.advances caller) (inductionHypothesis (scene.advance env caller))

/-- A provider that lists a rule once it has created one. -/
def candidProvider : Environment where
  project := "demo"
  requestId _ := "id"
  reply world call :=
    let created := world.history.any fun exchange => exchange.call.isPost
    { answer :=
        match call with
        | .get path =>
          if created && path == globalParent "demo" "firewalls" then
            .ok (Catalog.pageOf (.obj [("name", .str "plain")]))
          else promptAnswer call
        | _ => promptAnswer call }
  pause := Pause.manual
  patience := 1

/-- A run that creates two rules. -/
def taggedOrder : Order :=
  ⟨.standard, .never, taggedSpec⟩

/-- Two listings and a run of one project, before their first steps. -/
def sharedScene : Scene (Fin 3) where
  session := .start Catalog.defaultTtl
  callers
    | 0 => .lists "demo" .begun
    | 1 => .launches taggedOrder (.begun candidProvider taggedOrder)
    | 2 => .lists "demo" .begun

/-- The first listing has asked for its page, and the run is about to post its last rule. -/
def postingScene : Scene (Fin 3) :=
  sharedScene.advances candidProvider [0, 0, 1, 1]

/-- The run has posted its last rule, dropped the stored rules and succeeded. -/
def launchedScene : Scene (Fin 3) :=
  (postingScene.advance candidProvider 1).advances candidProvider [1, 1, 1, 1, 1, 1]

/-- The first listing has stored what it has read, and the second has found it. -/
def overtakenScene : Scene (Fin 3) :=
  launchedScene.advances candidProvider [0, 2]

private theorem reaches_launchedScene :
    Reaches candidProvider (postingScene.advance candidProvider 1) launchedScene :=
  reaches_advances _ _ _

private theorem reaches_overtakenScene : Reaches candidProvider launchedScene overtakenScene :=
  reaches_advances _ _ _

private theorem begun_sharedScene (caller : Fin 3) :
    (sharedScene.callers caller).Begun candidProvider := by
  match caller with
  | 0 => rfl
  | 1 => rfl
  | 2 => rfl

/-- The run posts its last rule and succeeds, and the second listing, which begins then, finds no
rules. -/
private theorem callers_overtakenScene :
    ∃ prepared tags rule summary, prepared.scope.project = "demo" ∧
      postingScene.callers 1 = .launches taggedOrder (.creating prepared tags [rule]) ∧
      launchedScene.callers 1 = .launches taggedOrder (.ended (.ok summary)) ∧
      launchedScene.callers 2 = .lists prepared.scope.project .begun ∧
      overtakenScene.callers 2 = .lists prepared.scope.project (.ended (.ok [])) :=
  ⟨_, _, _, _, rfl, rfl, rfl, rfl, rfl⟩

/-- Whether a call gets a path. -/
def getsFrom (path : String) : Call → Bool
  | .get target => target == path
  | .getUrl _ => false
  | .post _ _ => false

/-- Nobody has asked for the rules since the last one was posted. -/
private theorem not_readSince_overtakenScene (rules : List ListedRule) :
    ¬ ReadSince candidProvider "demo" (postingScene.advance candidProvider 1).history
        overtakenScene.history rules := by
  intro read
  have unasked : ∀ exchange ∈ overtakenScene.history.drop
      (postingScene.advance candidProvider 1).history.length,
      getsFrom (globalParent "demo" "firewalls") exchange.call = false := by
    decide +kernel
  obtain ⟨later, added⟩ := Reaches.history (reaches_launchedScene.trans reaches_overtakenScene)
  rw [← added, List.drop_left] at unasked
  rw [← added] at read
  obtain ⟨exchange, member, asked⟩ := read.exists_asked
  have spared := unasked exchange member
  rw [asked] at spared
  simp [getsFrom] at spared

/-- The rules that the second listing finds are those of the first, which was in flight when the
last rule had been posted and when the run was about to drop the stored ones. -/
theorem listed_since_or_overtaken_sharedScene :
    ∃ dropping rival,
      Reaches candidProvider (postingScene.advance candidProvider 1) dropping ∧
      Reaches candidProvider (dropping.advance candidProvider 1) launchedScene ∧
      (postingScene.advance candidProvider 1).InFlight "demo" rival ∧
      dropping.InFlight "demo" rival ∧
      overtakenScene.callers rival = .lists "demo" (.ended (.ok [])) := by
  obtain ⟨prepared, tags, rule, summary, project, asks, succeeded, unbegun, answered⟩ :=
    callers_overtakenScene
  have listed := listed_since_or_overtaken begun_sharedScene (reaches_advances _ _ _) asks
    reaches_launchedScene succeeded unbegun reaches_overtakenScene answered
  rw [project] at listed
  rcases listed with read | ⟨dropping, _, rival, toDropping, -, onward, posted, dropped, rules⟩
  · exact absurd read (not_readSince_overtakenScene [])
  · exact ⟨dropping, rival, toDropping, onward, posted, dropped, rules⟩

/-- A listing that begins after a run has succeeded may end with rules that were asked for before
the last rule of the run was posted. -/
theorem not_always_listed_since :
    ¬ ∀ (ι : Type) [DecidableEq ι] (env : Environment) (start asking returned final : Scene ι)
        (run call : ι) (order : Order) (prepared : Prepared) (tags : List String)
        (rule : FirewallRule) (summary : InstanceSummary) (rules : List ListedRule),
      (∀ caller, (start.callers caller).Begun env) → Reaches env start asking →
        asking.callers run = .launches order (.creating prepared tags [rule]) →
        Reaches env (asking.advance env run) returned →
        returned.callers run = .launches order (.ended (.ok summary)) →
        returned.callers call = .lists prepared.scope.project .begun →
        Reaches env returned final →
        final.callers call = .lists prepared.scope.project (.ended (.ok rules)) →
          ReadSince env prepared.scope.project (asking.advance env run).history final.history
            rules := by
  intro always
  obtain ⟨prepared, tags, rule, summary, project, asks, succeeded, unbegun, answered⟩ :=
    callers_overtakenScene
  have read := always (Fin 3) candidProvider _ _ _ _ 1 2 taggedOrder prepared tags rule summary []
    begun_sharedScene (reaches_advances _ _ _) asks reaches_launchedScene succeeded unbegun
    reaches_overtakenScene answered
  rw [project] at read
  exact not_readSince_overtakenScene [] read

end Overtaking

end VmLaunch.Launch
