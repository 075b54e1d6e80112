import VmLaunch.Proofs.Catalog.Distinct
import VmLaunch.Proofs.Catalog.Hand

/-!
# Listings that fail

A listing that fails leaves nothing: neither the pages that it had fetched nor the expired lists
that it has dropped make a difference to whatever is asked of the catalog later. A listing whose
list is live asks for nothing, and any other comes to one walk through the pages.
-/

namespace VmLaunch

/-- The session at another time. -/
def Session.at (session : Session) (now : Nat) : Session :=
  { session with world := { session.world with now := now } }

/-- The error that work ends with. -/
def Outcome.cause? {α : Type} : Outcome α → Option LaunchError
  | .ok _ => none
  | .error cause => some cause
  | .unfinished => none

/-- An outcome with a cause is the error with that cause. -/
theorem Outcome.eq_error_of_cause?_eq {α : Type} {outcome : Outcome α} {cause : LaunchError}
    (same : outcome.cause? = some cause) : outcome = .error cause := by
  cases outcome with
  | error found => exact congrArg Outcome.error (Option.some.inj same)
  | ok _ | unfinished => cases same

namespace Catalog

/-- Sessions at one time whose catalogs read alike from then on. -/
structure Parallel (session other : Session) : Prop where
  now : session.world.now = other.world.now
  alike : Alike session.world.now session.catalog other.catalog

/-- Work that leaves a catalog as it reads unless it ends with a value. -/
def Traceless {α : Type} (work : Work Session α) : Prop :=
  ∀ session, (∀ value, (work session).1 ≠ .ok value) →
    Alike session.world.now (work session).2.catalog session.catalog

variable {α β : Type} {env : Environment} {replies : String → Nat → Reply}

section Steps

/-- Work on worlds that goes in step does so in sessions. -/
theorem inStep_inSession {work : Work World α} (inStep : Work.InStep Work.Together work)
    (onward : work.Onward) : Work.InStep Parallel work.inSession := by
  intro session other parallel
  obtain ⟨outcomes, now, made, added, otherAdded⟩ := inStep session.world other.world parallel.now
  exact ⟨outcomes, ⟨now, parallel.alike.mono (onward session.world)⟩, made, added, otherAdded⟩

/-- Parallel sessions stay parallel when a key is looked up. -/
theorem Parallel.afterLookup {session other : Session} (parallel : Parallel session other)
    (drawer : Drawer) (key : String) :
    Parallel (drawer.shelf.afterLookup key session) (drawer.shelf.afterLookup key other) where
  now := parallel.now
  alike := by
    have evicted := Alike.evict drawer session.world.now key session.catalog
    have otherEvicted := Alike.evict drawer other.world.now key other.catalog
    rw [← parallel.now] at otherEvicted
    have both := (evicted.trans parallel.alike).trans otherEvicted.symm
    rw [parallel.now] at both
    simpa only [Shelf.afterLookup, parallel.now] using both

/-- Parallel sessions stay parallel when a list is stored. -/
theorem Parallel.afterStore {session other : Session} (parallel : Parallel session other)
    (drawer : Drawer) (key : String) (items : List drawer.Entry) :
    Parallel (drawer.shelf.afterStore key items session)
      (drawer.shelf.afterStore key items other) where
  now := parallel.now
  alike := by
    have both := parallel.alike.set drawer key items
    simpa only [Shelf.afterStore, parallel.now] using both

/-- Lists are read in step when they are obtained in step. -/
theorem inStep_through {drawer : Drawer} {obtain : Work Session (List drawer.Entry)}
    (inStep : Work.InStep Parallel obtain) (key : String) :
    Work.InStep Parallel (drawer.shelf.through key obtain) := by
  intro session other parallel
  have looked := parallel.afterLookup drawer key
  have found := parallel.alike.found drawer key _ (Nat.le_refl _)
  cases peeked : (drawer.shelf.get session.catalog).peek? session.world.now key with
  | some items =>
    rw [peeked, parallel.now] at found
    rw [Shelf.through_of_found peeked, Shelf.through_of_found found.symm]
    exact ⟨rfl, looked, [], (List.append_nil _).symm, (List.append_nil _).symm⟩
  | none =>
    rw [peeked, parallel.now] at found
    rw [Shelf.through_of_missing peeked, Shelf.through_of_missing found.symm]
    obtain ⟨outcomes, still, made, added, otherAdded⟩ := inStep _ _ looked
    rcases run : obtain (drawer.shelf.afterLookup key session) with ⟨outcome, middle⟩
    rcases rerun : obtain (drawer.shelf.afterLookup key other) with ⟨otherOutcome, otherMiddle⟩
    rw [run, rerun] at outcomes still
    rw [run] at added
    rw [rerun] at otherAdded
    cases outcomes
    cases outcome with
    | ok items => exact ⟨rfl, still.afterStore drawer key items, made, added, otherAdded⟩
    | error cause => exact ⟨rfl, still, made, added, otherAdded⟩
    | unfinished => exact ⟨rfl, still, made, added, otherAdded⟩

/-- A topic is read in step, when replies are a function of the path and the time. -/
theorem Topic.inStep_read (timed : env.Timed replies) (topic : Topic) :
    Work.InStep Parallel (topic.read env) := by
  have whole : ∀ (kind : Whole) (project : String),
      Work.InStep Parallel (kind.fetch env project).inSession := fun kind project =>
    inStep_inSession (Page.inStep_walk timed _ _ _ _ _) (Page.onward_walk env _ _ _ _ _)
  refine inStep_through ?_ topic.key
  cases topic with
  | whole kind project => exact whole kind project
  | part kind project location =>
    refine inStep_inSession ?_ ?_
    · exact (Page.inStep_walk timed _ _ _ _ _).bind fun _ => Work.inStep_pure _
    · exact (Page.onward_walk env _ _ _ _ _).bind fun _ => Work.onward_pure _
  | zones project region =>
    have regions : Work.InStep Parallel ((Topic.whole .regions project).read env) :=
      inStep_through (whole .regions project) _
    exact regions.bind fun _ => Work.inStep_pure _

/-- A query is asked in step, when replies are a function of the path and the time. -/
theorem Query.inStep_perform (timed : env.Timed replies) (query : Query) :
    Work.InStep Parallel (query.perform env) := by
  by_cases lookedUp : query.IsLookedUp
  · rw [perform_eq_read env lookedUp]
    exact (Topic.inStep_read timed query.topic).bind fun _ => Work.inStep_pure _
  · rw [perform_eq_nil env lookedUp]
    exact Work.inStep_pure _

end Steps

section Traces

/-- Work on the world leaves no trace in the catalog. -/
theorem traceless_inSession (work : Work World α) : Traceless work.inSession :=
  fun session _ => .refl session.world.now session.catalog

/-- Work without a trace leaves none whatever is made of its value. -/
theorem Traceless.map {work : Work Session α} (traceless : Traceless work) (f : α → β) :
    Traceless (do
      let value ← work
      return f value) := by
  intro session fails
  rw [Work.map_apply] at fails ⊢
  refine traceless session fun value ends => fails (f value) ?_
  rw [ends]
  rfl

/-- A list that cannot be obtained is not stored. -/
theorem traceless_through {drawer : Drawer} {obtain : Work Session (List drawer.Entry)}
    (traceless : Traceless obtain) (key : String) :
    Traceless (drawer.shelf.through key obtain) := by
  intro session fails
  cases peeked : (drawer.shelf.get session.catalog).peek? session.world.now key with
  | some items =>
    rw [Shelf.through_of_found peeked] at fails
    exact absurd rfl (fails items)
  | none =>
    rw [Shelf.through_of_missing peeked] at fails ⊢
    have looked := Alike.evict drawer session.world.now key session.catalog
    have left := traceless (drawer.shelf.afterLookup key session)
    rcases run : obtain (drawer.shelf.afterLookup key session) with ⟨outcome, later⟩
    rw [run] at left fails
    cases outcome with
    | ok items => exact absurd rfl (fails items)
    | error cause => exact (left fun _ => nofun).trans looked
    | unfinished => exact (left fun _ => nofun).trans looked

/-- A topic that cannot be read leaves no trace. -/
theorem Topic.traceless_read (topic : Topic) : Traceless (topic.read env) := by
  refine traceless_through ?_ topic.key
  cases topic with
  | whole kind project => exact traceless_inSession _
  | part kind project location => exact traceless_inSession _
  | zones project region =>
    have regions : Traceless ((Topic.whole .regions project).read env) :=
      traceless_through (traceless_inSession _) _
    exact regions.map (zonesOf region)

/-- A query that fails leaves no trace. -/
theorem Query.traceless_perform (query : Query) : Traceless (query.perform env) := by
  by_cases lookedUp : query.IsLookedUp
  · rw [perform_eq_read env lookedUp]
    exact (Topic.traceless_read query.topic).map query.view
  · rw [perform_eq_nil env lookedUp]
    exact fun session fails => absurd rfl (fails [])

end Traces

section Transcripts

/-- What is done with a catalog from outside. -/
inductive Step where
  | ask (query : Query)
  | forget (project : String)
  | pass (d : Duration)

/-- What is seen of a query: how it ends and the exchanges that it makes. -/
structure Report where
  query : Query
  outcome : Outcome (List query.Item)
  made : List Exchange

/-- What is seen of a run of steps. -/
def transcript (env : Environment) : List Step → Session → List Report
  | [], _ => []
  | .ask query :: steps, session =>
    ⟨query, (query.perform env session).1, (query.perform env).made session⟩ ::
      transcript env steps (query.perform env session).2
  | .forget project :: steps, session =>
    transcript env steps (forgetFirewalls project session).2
  | .pass d :: steps, session =>
    transcript env steps { session with world := session.world.advance d }

/-- Parallel sessions stay parallel when firewall rules are dropped. -/
theorem Parallel.forget {session other : Session} (parallel : Parallel session other)
    (project : String) :
    Parallel (forgetFirewalls project session).2 (forgetFirewalls project other).2 :=
  ⟨parallel.now, parallel.alike.erase .firewalls (firewallsKey project)⟩

/-- Parallel sessions stay parallel when time passes. -/
theorem Parallel.pass {session other : Session} (parallel : Parallel session other)
    (d : Duration) :
    Parallel { session with world := session.world.advance d }
      { other with world := other.world.advance d } :=
  ⟨congrArg d.after parallel.now, parallel.alike.mono (Nat.le_add_right _ _)⟩

/-- Parallel sessions are not told apart by any run of steps. -/
theorem Parallel.transcript_eq (timed : env.Timed replies) {session other : Session}
    (parallel : Parallel session other) (steps : List Step) :
    transcript env steps session = transcript env steps other := by
  induction steps generalizing session other with
  | nil => rfl
  | cons step steps inductionHypothesis =>
    cases step with
    | ask query =>
      have inStep := query.inStep_perform timed
      obtain ⟨ends, still, -⟩ := inStep session other parallel
      rw [transcript, transcript, ends, inStep.made_eq parallel, inductionHypothesis still]
    | forget project => exact inductionHypothesis (parallel.forget project)
    | pass d => exact inductionHypothesis (parallel.pass d)

/-- A session in which a query has failed goes on like the one before it at the same time. -/
theorem Query.parallel_of_fails {query : Query} {session : Session} {cause : LaunchError}
    (fails : (query.perform env session).1 = .error cause) :
    Parallel (query.perform env session).2
      (session.at (query.perform env session).2.world.now) where
  now := rfl
  alike := by
    have left : Alike session.world.now (query.perform env session).2.catalog session.catalog :=
      query.traceless_perform session fun value ends => by cases fails.symm.trans ends
    exact left.mono (query.now_le_perform env session)

/-- With a provider whose replies are a function of the path and the time, a query that fails
makes no difference to what is seen of any steps after it, and it fails with every page that is
refused. What is at hand is answered without asking, a query for images that nobody publishes
yields nothing, and any other query makes the exchanges of one walk and ends as the walk does. -/
theorem Query.failure_leaves_nothing (timed : env.Timed replies) (query : Query)
    (session : Session) :
    (∀ exchange ∈ (query.perform env).made session, ∀ cause,
      query.topic.Refuses exchange.answer cause →
        (query.perform env session).1 = .error cause) ∧
    (∀ cause, (query.perform env session).1 = .error cause → ∀ steps,
      transcript env steps (query.perform env session).2 =
        transcript env steps (session.at (query.perform env session).2.world.now)) ∧
    (query.IsLookedUp → query.topic.IsAtHand session →
      (∃ items, (query.perform env session).1 = .ok items) ∧
        (query.perform env).made session = []) ∧
    (query.IsLookedUp → ¬ query.topic.IsAtHand session →
      (query.perform env session).1 = (query.walk env session.world).1 ∧
        (query.perform env).made session = (query.walk env).made session.world) ∧
    (¬ query.IsLookedUp → query.perform env session = (.ok [], session)) := by
  refine ⟨fun exchange member cause refused => query.perform_heeds env member refused,
    fun cause fails steps => (parallel_of_fails fails).transcript_eq timed steps,
    fun lookedUp atHand => ?_, fun lookedUp away => ?_, fun idle => ?_⟩
  · obtain ⟨items, found, -⟩ := perform_of_atHand env lookedUp atHand
    exact ⟨⟨items, found⟩, made_of_atHand env lookedUp atHand⟩
  · have walked := perform_of_not_atHand env lookedUp away
    exact ⟨(congrArg Prod.fst walked).symm, made_of_not_atHand env lookedUp away⟩
  · rw [perform_eq_nil env idle]
    rfl

/-- The second page of the regions of a project. -/
def secondPage : String :=
  "projects/demo/regions?pageToken=2"

/-- The regions of a project on two pages, of which the second cannot be had at the beginning of
time. -/
def falteringReply (path : String) (now : Nat) : Reply where
  answer :=
    if path = secondPage then
      if now = 0 then .error (.of "refused") else .ok (pageOf (loneRegion "s").encode)
    else .ok (.obj [("items", .arr [(loneRegion "r").encode]), ("nextPageToken", .str "2")])

/-- A provider that gives these replies. -/
def falteringProvider : Environment where
  project := "demo"
  requestId _ := ""
  reply world call :=
    match call with
    | .get path => falteringReply path world.now
    | .getUrl _ => { answer := .ok .null }
    | .post _ _ => { answer := .ok .null }
  pause := Pause.manual
  patience := 2

/-- The replies of the faltering provider are a function of the path and the time. -/
theorem falteringProvider_timed : falteringProvider.Timed falteringReply :=
  fun _ _ => rfl

/-- The regions are lost with their second page, and zones are derived from those that a later
walk has stored. -/
theorem Query.failure_leaves_nothing_falteringProvider :
    let session := Session.start defaultTtl
    let later := ((Query.zones "demo" none).perform falteringProvider session).2
    let known := ((Query.zones "demo" none).perform falteringProvider (session.at 1)).2
    falteringProvider.Timed falteringReply ∧
      ((Query.zones "demo" none).perform falteringProvider session).1 =
        .error (.provider (.list "projects/demo/regions") (.of "refused")) ∧
      (∀ steps, transcript falteringProvider steps later =
        transcript falteringProvider steps session) ∧
      ((Query.zones "demo" none).perform falteringProvider).made session =
        ((Query.zones "demo" none).walk falteringProvider).made {} ∧
      ((Query.zones "demo" (some "s")).perform falteringProvider).made known = [] := by
  intro session later known
  have leaves := fun query session =>
    Query.failure_leaves_nothing falteringProvider_timed query session
  obtain ⟨-, traceless, -, walked, -⟩ := leaves (.zones "demo" none) session
  have fails : ((Query.zones "demo" none).perform falteringProvider session).1 =
      .error (.provider (.list "projects/demo/regions") (.of "refused")) :=
    Outcome.eq_error_of_cause?_eq (by decide +kernel)
  have regions : (Topic.whole .regions "demo").IsLive known := by
    rw [Topic.IsLive, ← Option.isSome_iff_ne_none]
    decide +kernel
  have still : later.world.now = 0 := by decide +kernel
  have unmoved := traceless _ fails
  rw [still] at unmoved
  exact ⟨falteringProvider_timed, fails, unmoved,
    (walked trivial (Topic.not_atHand_start _ _)).2,
    ((leaves (.zones "demo" (some "s")) known).2.2.1 trivial (.derived regions)).2⟩

/-- A query for images that nobody publishes succeeds without a walk. -/
theorem Query.not_always_walked :
    ¬ ∀ env replies (query : Query) session, env.Timed replies →
      (∃ items, (query.perform env session).1 = .ok items) → ¬ query.topic.IsAtHand session →
        (query.perform env).made session = (query.walk env).made session.world := by
  intro walks
  have walked := walks falteringProvider _ (.publicImages "demo") (.start defaultTtl)
    falteringProvider_timed ⟨[], rfl⟩ (Topic.not_atHand_start _ _)
  have lengths := congrArg List.length walked
  exact absurd lengths (by decide +kernel)

end Transcripts

end Catalog

end VmLaunch
