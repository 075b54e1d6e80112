import VmLaunch.Proofs.Catalog.Distinct
import VmLaunch.Proofs.Catalog.Transparent

/-!
# Collisions of keys

A query that shares a stored list with one that was asked before is answered with
the items of that one. So a catalog is transparent to no more than the queries that
are separate. Keys collide only when a project contains a colon, or when the zones of
a nameless region are asked for beside those of all regions.
-/

namespace VmLaunch

section Again

variable {α : Type} {shelf : Shelf α} {key : String} {obtain again : Work Session (List α)}
  {session : Session} {items : List α}

/-- A list that was not there and has been obtained is found from then on. -/
theorem Shelf.through_again
    (getPut : ∀ cache catalog, shelf.get (shelf.put cache catalog) = cache)
    (missing : (shelf.get session.catalog).peek? session.world.now key = none) {middle : Session}
    (run : obtain (shelf.afterLookup key session) = (.ok items, middle))
    (lasting : 0 < (shelf.get middle.catalog).ttl.span.nanos) :
    (shelf.through key again (shelf.through key obtain session).2).1 = .ok items := by
  have stored : (shelf.through key obtain session).2 = shelf.afterStore key items middle := by
    rw [through_of_obtained missing run]
  rw [stored, through_of_found]
  refine Cache.peek?_eq_some_iff.mpr ⟨⟨items, _⟩, ?_, Nat.lt_add_of_pos_right lasting, rfl⟩
  rw [afterStore, getPut]
  exact Cache.stored?_set_self _ _ _ _

end Again

namespace Catalog

section Stale

variable {env : Environment} {answers : String → Answer} {ttl : Duration} {query other : Query}

/-- A single query shares its key with no other that is asked. -/
theorem Query.separate_single (query : Query) : Separate (· = query) := by
  rintro _ _ rfl rfl _ _
  rfl

/-- A query that is the first to be asked stores its content. -/
theorem Query.obtain_fresh (fixed : env.Fixed answers) (query : Query) (world : World)
    (ttl : Duration) :
    ∃ middle, query.topic.obtain env
        (query.topic.drawer.shelf.afterLookup query.topic.key ⟨world, .fresh ttl⟩) =
          (query.topic.content env, middle) ∧
      (query.topic.drawer.shelf.get middle.catalog).ttl = ttl := by
  have looked : Faithful env (Topics (· = query)) ttl
      (query.topic.drawer.shelf.afterLookup query.topic.key ⟨world, .fresh ttl⟩).catalog :=
    (faithful_fresh ttl).evict _ _ _
  obtain ⟨ends, after⟩ := keeps_obtain fixed query.separate_single rfl ttl _ looked
  exact ⟨_, Prod.ext ends rfl, after.lives _⟩

/-- A query that shares its drawer and its key with one that was asked before is answered
with as many items as that one, as long as these live. -/
theorem Query.read_stale (fixed : env.Fixed answers)
    (sameDrawer : query.topic.drawer = other.topic.drawer)
    (sameKey : query.topic.key = other.topic.key) (lasting : 0 < ttl.span.nanos)
    {items : List query.topic.drawer.Entry} (content : query.topic.content env = .ok items)
    (world : World) :
    (other.topic.read env (query.topic.read env ⟨world, .fresh ttl⟩).2).1.length? =
      some items.length := by
  obtain ⟨middle, run, lives⟩ := query.obtain_fresh fixed world ttl
  rw [content] at run
  have missing : (query.topic.drawer.shelf.get (fresh ttl)).peek? world.now query.topic.key =
      none := by
    rw [Drawer.get_fresh]
    rfl
  have onward : ∀ {drawer : Drawer} (again : Work Session (List drawer.Entry)),
      query.topic.drawer = drawer →
        (drawer.shelf.through query.topic.key again
          (query.topic.read env ⟨world, .fresh ttl⟩).2).1.length? = some items.length := by
    rintro drawer again rfl
    have found : (query.topic.drawer.shelf.through query.topic.key again
        (query.topic.read env ⟨world, .fresh ttl⟩).2).1 = .ok items :=
      Shelf.through_again (Drawer.get_put _) missing run (by rwa [lives])
    rw [found]
    rfl
  rw [Topic.read, ← sameKey]
  exact onward _ sameDrawer

end Stale

/-- A catalog is transparent only to queries that are separate. -/
theorem Transparent.separate {asked : Query → Prop} (transparent : Transparent asked) :
    Query.Separate asked := by
  intro query other member otherMember sameDrawer sameKey
  by_cases same : query.topic = other.topic
  · exact same
  have located : query.topic.IsLocated ∧ other.topic.IsLocated := by
    rcases Topic.eq_or_located sameDrawer sameKey with
      equal | ⟨_, _, _, _, _, first, second⟩ | ⟨_, _, _, _, first, second⟩
    · exact absurd equal same
    · rw [first, second]
      exact ⟨trivial, trivial⟩
    · rw [first, second]
      exact ⟨trivial, trivial⟩
  obtain ⟨env, answers, items, others, fixed, content, otherContent, lengths⟩ :=
    Topic.told_apart sameDrawer sameKey same
  have reached : Reached env defaultTtl asked (query.perform env ⟨{}, .fresh defaultTtl⟩).2 :=
    .performed (.fresh {}) query member
  have alike := congrArg Outcome.length?
    (transparent env answers fixed defaultTtl _ reached other otherMember {} defaultTtl)
  have lasting : 0 < defaultTtl.span.nanos := by decide
  have stale := Query.read_stale fixed sameDrawer sameKey lasting content {}
  have fresh := (other.keeps_read fixed other.separate_single rfl defaultTtl
    ⟨{}, .fresh defaultTtl⟩ (faithful_fresh defaultTtl)).1
  rw [(Query.perform_located located.1 env _).2, (Query.perform_located located.2 env _).1,
    (Query.perform_located located.2 env _).1, stale, fresh, otherContent] at alike
  exact absurd (Option.some.inj alike) lengths

/-- A catalog answers every query as a fresh one does, whatever was asked before and however
much time has passed, exactly if no two of the queries that may be asked are answered from
one stored list though they ask for different things. Then the zones of one region are also
those of all regions that lie in it. -/
theorem transparent_iff_separate (asked : Query → Prop) :
    (Transparent asked ↔ Query.Separate asked) ∧
      (Query.Separate asked → ∀ (env : Environment) (answers : String → Answer),
        env.Fixed answers → ∀ ttl session, Reached env ttl asked session →
          ∀ project region, asked (.zones project (some region)) → asked (.zones project none) →
            (listZones env project (some region) session).1 =
              (listZones env project none session).1.map
                (List.filter fun zone => zone.region == region)) :=
  ⟨⟨Transparent.separate, Query.Separate.transparent⟩,
    fun separate _ _ fixed _ _ reached _ _ one all =>
      reached.zones_restrict fixed separate reached one all⟩

/-- The zones of one region beside those of all regions. -/
def demoQueries (query : Query) : Prop :=
  query = .zones "demo" none ∨ query = .zones "demo" (some "a")

/-- Zones and regions of one project are stored apart, and a catalog that both were asked of answers
as the provider does. -/
theorem transparent_iff_separate_demoQueries :
    let env := loneProvider (Whole.regions.path "demo") (pageOf (loneRegion "a").encode)
    let session := (listZones env "demo" none (.start defaultTtl)).2
    Transparent demoQueries ∧
      (listZones env "demo" (some "a") session).1 =
        (listZones env "demo" none session).1.map (List.filter fun zone => zone.region == "a") := by
  intro env session
  have separate : Query.Separate demoQueries := by
    refine Query.separate_of_plain ?_ ?_
    · rintro _ (rfl | rfl) <;> decide
    · rintro project (same | same) <;> simp at same
  have reached : Reached env defaultTtl demoQueries session :=
    .performed (.fresh {}) (.zones "demo" none) (.inl rfl)
  exact ⟨(transparent_iff_separate demoQueries).1.mpr separate,
    (transparent_iff_separate demoQueries).2 separate env _ (loneProvider_fixed _ _) defaultTtl
      session reached "demo" "a" (.inr rfl) (.inl rfl)⟩

/-- The zones of a nameless region hide those of all regions. -/
theorem not_transparent : ¬ Transparent fun _ => True := by
  intro transparent
  have same := transparent.separate (.zones "demo" none) (.zones "demo" (some "")) trivial trivial
    rfl rfl
  cases same

end Catalog

end VmLaunch
