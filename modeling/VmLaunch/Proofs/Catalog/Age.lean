import VmLaunch.Proofs.Catalog.Distinct
import VmLaunch.Proofs.Catalog.Source
import VmLaunch.Proofs.Catalog.Transparent

/-!
# The age of answers

An answer is `Within` an age when it is drawn from exchanges that were made for it or are
younger than that age. With a provider that answers at once, every answer is within the
time that lists live, except for zones: regions that are about to expire are read again for
as long as the zones live that were read off them.
-/

namespace VmLaunch

/-- No duration that is added is longer than the longest. -/
theorem Duration.span_le_longest (d : Duration) : d.span.nanos ≤ longest.nanos := by
  unfold span
  by_cases short : d.nanos ≤ longest.nanos
  · rwa [if_pos short]
  · rw [if_neg short]
    decide

namespace Catalog

namespace Query

/-- Answers that exchanges make up. -/
inductive Drawn : (query : Query) → List Exchange → List query.Item → Prop where
  | read {query exchanges items} (lookedUp : IsLookedUp query)
      (drawn : Catalog.Drawn query.topic.drawer query.topic.key exchanges items) :
      Drawn query exchanges (query.view items)
  | nothing {query} (idle : ¬ IsLookedUp query) : Drawn query [] []

/-- An answer to a query that is looked up is drawn from exchanges. -/
theorem Drawn.exchanges_ne_nil {query : Query} {exchanges : List Exchange}
    {items : List query.Item} (drawn : query.Drawn exchanges items)
    (lookedUp : query.IsLookedUp) : exchanges ≠ [] := by
  cases drawn with
  | read lookedUp drawn => exact drawn.exchanges_ne_nil
  | nothing idle => exact absurd lookedUp idle

/-- How old exchanges may be that an answer is drawn from. -/
def lifetime (ttl : Duration) (query : Query) : Nat :=
  query.topic.drawer.lifetime ttl

/-- A session answers a query with items only if they are drawn from exchanges that it makes
for them or that are younger than an age. -/
def Within (env : Environment) (session : Session) (age : Nat) (query : Query) : Prop :=
  ∀ items, (query.perform env session).1 = .ok items →
    ∃ exchanges, query.Drawn exchanges items ∧
      ∀ exchange ∈ exchanges, Recent age session ((query.perform env).made session) exchange

end Query

section Sessions

variable {env : Environment} {ttl : Duration} {session : Session}

/-- Asking a query draws its answer within its lifetime. -/
theorem Query.draws_perform (prompt : env.Prompt) (query : Query) :
    Draws ttl (query.lifetime ttl) query.Drawn (query.perform env) := by
  by_cases lookedUp : query.IsLookedUp
  · rw [perform_eq_read env lookedUp]
    exact (Topic.draws_read prompt query.topic).map query.view fun _ _ => .read lookedUp
  · rw [perform_eq_nil env lookedUp]
    intro session sourced
    refine ⟨[], rfl, (List.append_nil _).symm, by simp, sourced, ?_⟩
    rintro _ ⟨⟩
    exact ⟨[], .nothing lookedUp, by simp⟩

/-- Queries and the passing of time leave a session sourced. -/
theorem Reached.sourced (prompt : env.Prompt) {asked : Query → Prop}
    (reached : Reached env ttl asked session) : Sourced ttl session := by
  induction reached with
  | fresh world => exact sourced_fresh ttl world
  | performed before query member inductionHypothesis =>
    obtain ⟨made, drawing⟩ := query.draws_perform prompt _ inductionHypothesis
    exact drawing.sourced
  | advanced before d inductionHypothesis =>
    exact inductionHypothesis.onward fun exchange member => member

/-- Whatever was asked before, an answer is drawn within the lifetime of its query. -/
theorem Reached.within (prompt : env.Prompt) {asked : Query → Prop}
    (reached : Reached env ttl asked session) (query : Query) :
    query.Within env session (query.lifetime ttl) := by
  intro items ends
  obtain ⟨made, drawing⟩ := query.draws_perform prompt session (reached.sourced prompt)
  rw [Work.made_eq drawing.added]
  exact drawing.recent items ends

end Sessions

section Late

variable {env : Environment} {ttl : Duration} {world : World} {project : String}
  {region : Option String}

/-- The last moment before lists that are stored now expire. -/
def lastMoment (ttl : Duration) : Duration :=
  ⟨ttl.span.nanos - 1⟩

/-- The last moment is one nanosecond before the end. -/
theorem span_lastMoment (ttl : Duration) : (lastMoment ttl).span.nanos = ttl.span.nanos - 1 := by
  have short : (lastMoment ttl).nanos ≤ Duration.longest.nanos :=
    Nat.le_trans (Nat.sub_le _ _) ttl.span_le_longest
  rw [Duration.span, if_pos short]
  rfl

/-- Regions are listed, zones are read off them at the last moment, and these are asked for
again at their own last moment. -/
def lateSession (env : Environment) (ttl : Duration) (world : World) (project : String)
    (region : Option String) : Session :=
  let listed := (listRegions env project ⟨world, fresh ttl⟩).2
  let waited := { listed with world := listed.world.advance (lastMoment ttl) }
  let zoned := (listZones env project region waited).2
  { zoned with world := zoned.world.advance (lastMoment ttl) }

/-- The late session is reached by queries and the passing of time. -/
theorem reached_lateSession (env : Environment) (ttl : Duration) (world : World)
    (project : String) (region : Option String) :
    Reached env ttl (fun _ => True) (lateSession env ttl world project region) :=
  .advanced (.performed (.advanced (.performed (.fresh world) (.regions project) trivial) _)
    (.zones project region) trivial) _

/-- A list that was stored is found as it was stored. -/
theorem Drawer.stored?_afterStore {drawer : Drawer} {key : String} {items : List drawer.Entry}
    {session : Session} (lives : (drawer.shelf.get session.catalog).ttl = ttl) :
    (drawer.shelf.get (drawer.shelf.afterStore key items session).catalog).stored? key =
      some ⟨items, session.world.now + ttl.span.nanos⟩ := by
  rw [Shelf.afterStore, get_put, Cache.stored?_set_self, Cache.expiry, lives]
  rfl

/-- Regions that a fresh catalog lists are stored from then on. -/
private theorem listRegions_fresh (ttl : Duration) {regions : List Region} {later : World}
    (walked : Whole.regions.fetch env project world = (.ok regions, later)) :
    ∃ listed, listRegions env project ⟨world, fresh ttl⟩ = (.ok regions, listed) ∧
      listed.world = later ∧
      (Drawer.regions.shelf.get listed.catalog).stored? (Topic.whole .regions project).key =
        some ⟨regions, later.now + ttl.span.nanos⟩ ∧
      Drawer.zones.shelf.get listed.catalog = .empty ttl := by
  have looked : (Whole.regions.fetch env project).inSession
      (Drawer.regions.shelf.afterLookup (Topic.whole .regions project).key ⟨world, fresh ttl⟩) =
        (.ok regions, ⟨later, fresh ttl⟩) := Work.inSession_of_eq walked
  refine ⟨Drawer.regions.shelf.afterStore (Topic.whole .regions project).key regions
    ⟨later, fresh ttl⟩, ?_, rfl, Drawer.stored?_afterStore rfl, rfl⟩
  exact Shelf.through_of_obtained rfl looked

/-- Zones that are not stored are read off regions that are, and are stored from then on. -/
private theorem listZones_of_regions (env : Environment) (region : Option String)
    (session : Session) {entry : Stored (List Region)}
    (stored : (Drawer.regions.shelf.get session.catalog).stored?
      (Topic.whole .regions project).key = some entry)
    (live : session.world.now < entry.expires)
    (unzoned : Drawer.zones.shelf.get session.catalog = .empty ttl) :
    ∃ zoned, listZones env project region session = (.ok (zonesOf region entry.value), zoned) ∧
      zoned.world = session.world ∧
      (Drawer.zones.shelf.get zoned.catalog).stored? (Topic.zones project region).key =
        some ⟨zonesOf region entry.value, session.world.now + ttl.span.nanos⟩ := by
  have missing : (Drawer.zones.shelf.get session.catalog).peek? session.world.now
      (Topic.zones project region).key = none := by
    rw [unzoned]
    rfl
  have kept : (Drawer.regions.shelf.get (Drawer.zones.shelf.afterLookup
      (Topic.zones project region).key session).catalog).stored?
        (Topic.whole .regions project).key = some entry := by
    rw [Shelf.afterLookup, Drawer.get_put_of_ne (by decide), stored]
  have listed : listRegions env project (Drawer.zones.shelf.afterLookup
      (Topic.zones project region).key session) = (.ok entry.value, _) :=
    Shelf.through_of_found (Cache.peek?_eq_some_iff.mpr ⟨entry, kept, live, rfl⟩)
  have obtained : (Topic.zones project region).obtain env (Drawer.zones.shelf.afterLookup
      (Topic.zones project region).key session) = (.ok (zonesOf region entry.value), _) :=
    Work.bind_of_ok listed
  refine ⟨_, Shelf.through_of_obtained missing obtained, rfl, Drawer.stored?_afterStore ?_⟩
  have lives : (Drawer.zones.shelf.get session.catalog).ttl = ttl := by
    rw [unzoned]
    rfl
  exact (Drawer.ttl_afterLookup .zones .regions _ _).trans
    ((Drawer.ttl_afterLookup .zones .zones _ _).trans lives)

/-- Zones are answered at their last moment as the regions say that were listed before the
last moment of these, and nobody is asked. -/
theorem lateSession_zones (region : Option String) {regions : List Region} {later : World}
    (lasting : 0 < ttl.span.nanos)
    (walked : Whole.regions.fetch env project world = (.ok regions, later)) :
    (lateSession env ttl world project region).world =
        (later.advance (lastMoment ttl)).advance (lastMoment ttl) ∧
      (listZones env project region (lateSession env ttl world project region)).1 =
        .ok (zonesOf region regions) ∧
      (listZones env project region).made (lateSession env ttl world project region) = [] := by
  obtain ⟨listed, regionsRead, listedWorld, regionsStored, unzoned⟩ := listRegions_fresh ttl walked
  let waited : Session := { listed with world := listed.world.advance (lastMoment ttl) }
  have regionsLive : waited.world.now < later.now + ttl.span.nanos := by
    change listed.world.now + (lastMoment ttl).span.nanos < _
    rw [listedWorld, span_lastMoment]
    omega
  obtain ⟨zoned, zonesRead, zonedWorld, zonesStored⟩ :=
    listZones_of_regions env region waited regionsStored regionsLive unzoned
  have late : lateSession env ttl world project region =
      { zoned with world := zoned.world.advance (lastMoment ttl) } := by
    rw [lateSession, regionsRead, zonesRead]
  have zonesLive : (zoned.world.advance (lastMoment ttl)).now <
      waited.world.now + ttl.span.nanos := by
    change zoned.world.now + (lastMoment ttl).span.nanos < _
    rw [zonedWorld, span_lastMoment]
    omega
  have again : listZones env project region (lateSession env ttl world project region) =
      (.ok (zonesOf region regions), Drawer.zones.shelf.afterLookup
        (Topic.zones project region).key (lateSession env ttl world project region)) := by
    rw [late]
    exact Shelf.through_of_found (Cache.peek?_eq_some_iff.mpr ⟨_, zonesStored, zonesLive, rfl⟩)
  refine ⟨?_, congrArg Prod.fst again, Work.made_eq ?_⟩
  · rw [late, zonedWorld, ← listedWorld]
  · rw [again]
    exact (List.append_nil _).symm

end Late

/-- A region that renames its one zone after the beginning of time. -/
def renamedRegion (now : Nat) : Region :=
  { loneRegion "r" with zones := [if now = 0 then "before" else "after"] }

/-- A provider with that region. -/
def renamingProvider : Environment where
  project := ""
  requestId _ := ""
  reply world _ := { answer := .ok (pageOf (renamedRegion world.now).encode) }
  pause := Pause.manual
  patience := 1

/-- The provider that renames a zone answers at once. -/
theorem renamingProvider_prompt : renamingProvider.Prompt :=
  fun _ _ => rfl

/-- The regions that the provider lists at the beginning of time. -/
theorem fetch_renamingProvider (project : String) :
    Whole.regions.fetch renamingProvider project {} =
      (.ok [renamedRegion 0],
        { history := [⟨.get (Whole.regions.path project),
            .ok (pageOf (renamedRegion 0).encode), 0⟩] }) :=
  rfl

/-- An age that late zones are within is no smaller than the lifetime of zones. -/
private theorem lifetime_le_of_late {ttl : Duration} {project : String} {region : Option String}
    {age : Nat}
    (within : (Query.zones project region).Within renamingProvider
      (lateSession renamingProvider ttl {} project region) age) :
    (Query.zones project region).lifetime ttl ≤ age := by
  have lifetime : (Query.zones project region).lifetime ttl =
      ttl.span.nanos - 1 + ttl.span.nanos := rfl
  by_cases lasting : 0 < ttl.span.nanos
  · obtain ⟨late, answered, silent⟩ :=
      lateSession_zones region lasting (fetch_renamingProvider project)
    obtain ⟨exchanges, drawn, recent⟩ := within _ answered
    obtain ⟨exchange, member⟩ := List.exists_mem_of_ne_nil _ (drawn.exchanges_ne_nil trivial)
    have made : (Query.perform renamingProvider (.zones project region)).made
        (lateSession renamingProvider ttl {} project region) = [] := silent
    rcases recent exchange member with new | ⟨old, young⟩
    · rw [made] at new
      cases new
    · -- The regions were listed once, at the beginning of time.
      rw [late] at old young
      have first : exchange.time = 0 := by
        cases List.mem_singleton.mp old
        rfl
      have passed : 0 + (lastMoment ttl).span.nanos + (lastMoment ttl).span.nanos <
          exchange.time + age := young
      rw [span_lastMoment, first] at passed
      omega
  · omega

/-- With a provider that answers at once, and whatever was asked before, every answer is drawn
from exchanges that are made for it or are younger than the lifetime of the query: the time
that lists live, and for zones nearly twice that time. No smaller age will do for zones. -/
theorem within_lifetime (ttl : Duration) :
    (∀ env session, env.Prompt → Reached env ttl (fun _ => True) session →
      ∀ query : Query, query.Within env session (query.lifetime ttl)) ∧
    ∀ project region age,
      (∀ env session, env.Prompt → Reached env ttl (fun _ => True) session →
        (Query.zones project region).Within env session age) →
      (Query.zones project region).lifetime ttl ≤ age :=
  ⟨fun _ _ prompt reached query => reached.within prompt query,
    fun _ _ _ within => lifetime_le_of_late
      (within _ _ renamingProvider_prompt (reached_lateSession _ _ _ _ _))⟩

/-- The name of the beginning of time is answered nearly two days later. -/
theorem within_lifetime_renamingProvider :
    let session := lateSession renamingProvider defaultTtl {} "demo" none
    renamingProvider.Prompt ∧ Reached renamingProvider defaultTtl (fun _ => True) session ∧
      (listZones renamingProvider "demo" none session).1 = .ok [⟨"before", "r"⟩] ∧
      (Query.zones "demo" none).Within renamingProvider session (2 * defaultTtl.nanos - 1) := by
  intro session
  have reached := reached_lateSession renamingProvider defaultTtl {} "demo" none
  have late := lateSession_zones none (by decide : 0 < defaultTtl.span.nanos)
    (fetch_renamingProvider "demo")
  exact ⟨renamingProvider_prompt, reached, late.2.1,
    (within_lifetime defaultTtl).1 _ _ renamingProvider_prompt reached _⟩

/-- Zones may be older than lists live. -/
theorem not_within_ttl :
    ¬ ∀ env ttl session, env.Prompt → Reached env ttl (fun _ => True) session →
      ∀ query : Query, query.Within env session ttl.span.nanos := by
  intro within
  have late := within renamingProvider defaultTtl _ renamingProvider_prompt
    (reached_lateSession renamingProvider defaultTtl {} "demo" none) (.zones "demo" none)
  exact absurd (lifetime_le_of_late late) (by decide)

end Catalog

end VmLaunch
