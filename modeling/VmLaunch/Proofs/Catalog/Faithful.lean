import VmLaunch.Proofs.Catalog.Fixed
import VmLaunch.Proofs.Catalog.Topic

/-!
# Faithful catalogs

A catalog is `Faithful` when every list that it stores is what the provider has to
say. Reading a topic of a faithful catalog yields its content and leaves the catalog
faithful, as long as the topics that are asked for are stored `Apart`.
-/

namespace VmLaunch

namespace Shelf

variable {α : Type} {shelf : Shelf α} {key : String} {obtain : Work Session (List α)}
  {session : Session}

/-- The session after a key was looked up. -/
def afterLookup (shelf : Shelf α) (key : String) (session : Session) : Session :=
  let cache := (shelf.get session.catalog).evict session.world.now key
  { session with catalog := shelf.put cache session.catalog }

/-- A lookup finds what is live under its key. -/
theorem lookup_eq (shelf : Shelf α) (key : String) (session : Session) :
    shelf.lookup key session =
      (.ok ((shelf.get session.catalog).peek? session.world.now key),
        shelf.afterLookup key session) :=
  rfl

/-- The session after a list was stored. -/
def afterStore (shelf : Shelf α) (key : String) (items : List α) (session : Session) : Session :=
  let cache := (shelf.get session.catalog).set session.world.now key items
  { session with catalog := shelf.put cache session.catalog }

/-- A live list is returned as it is stored. -/
theorem through_of_found {items : List α}
    (found : (shelf.get session.catalog).peek? session.world.now key = some items) :
    shelf.through key obtain session = (.ok items, shelf.afterLookup key session) := by
  have run : shelf.lookup key session = (.ok (some items), shelf.afterLookup key session) := by
    rw [lookup_eq, found]
  exact Work.bind_of_ok run

/-- A list that is not live is obtained, and stored if that succeeds. -/
theorem through_of_missing
    (missing : (shelf.get session.catalog).peek? session.world.now key = none) :
    shelf.through key obtain session =
      match obtain (shelf.afterLookup key session) with
      | (.ok items, later) => (.ok items, shelf.afterStore key items later)
      | (.error cause, later) => (.error cause, later)
      | (.unfinished, later) => (.unfinished, later) := by
  have run : shelf.lookup key session = (.ok none, shelf.afterLookup key session) := by
    rw [lookup_eq, missing]
  rw [through, Work.bind_of_ok run]
  rcases obtained : obtain (shelf.afterLookup key session) with ⟨_ | _ | _, later⟩
  · exact Work.bind_of_ok obtained
  · exact Work.bind_of_error obtained
  · exact Work.bind_of_unfinished obtained

/-- A list that is obtained is returned and stored. -/
theorem through_of_obtained {items : List α} {later : Session}
    (missing : (shelf.get session.catalog).peek? session.world.now key = none)
    (obtained : obtain (shelf.afterLookup key session) = (.ok items, later)) :
    shelf.through key obtain session = (.ok items, shelf.afterStore key items later) := by
  rw [through_of_missing missing, obtained]

end Shelf

namespace Catalog

/-- Topics that are stored apart: no two of them share a drawer and a key. -/
def Apart (asked : Topic → Prop) : Prop :=
  ∀ topic other, asked topic → asked other → topic.drawer = other.drawer →
    topic.key = other.key → topic = other

/-- Every list that is stored for a topic is its content, and lists live for one time. -/
structure Faithful (env : Environment) (asked : Topic → Prop) (ttl : Duration)
    (catalog : Catalog) : Prop where
  holds : ∀ topic, asked topic → ∀ entry,
    (topic.drawer.shelf.get catalog).stored? topic.key = some entry →
      topic.content env = .ok entry.value
  lives : ∀ drawer : Drawer, (drawer.shelf.get catalog).ttl = ttl

section Faithful

variable {env : Environment} {asked : Topic → Prop} {ttl : Duration} {catalog : Catalog}
  {topic : Topic}

/-- A fresh catalog has nothing stored that could be wrong. -/
theorem faithful_fresh (ttl : Duration) : Faithful env asked ttl (fresh ttl) where
  holds topic _ entry stored := by
    rw [Drawer.get_fresh] at stored
    cases stored
  lives drawer := by
    rw [Drawer.get_fresh]
    rfl

/-- A cache that is put back lives as long as before. -/
theorem Drawer.ttl_put {other : Drawer} {cache : Cache (List other.Entry)}
    (same : cache.ttl = (other.shelf.get catalog).ttl) (drawer : Drawer) :
    (drawer.shelf.get (other.shelf.put cache catalog)).ttl = (drawer.shelf.get catalog).ttl := by
  by_cases equal : drawer = other
  · subst equal
    rw [get_put, same]
  · rw [get_put_of_ne equal]

/-- What is stored after a key was read was stored before. -/
theorem Drawer.stored?_of_put_evict {drawer other : Drawer} {key otherKey : String} {now : Nat}
    {entry : Stored (List drawer.Entry)}
    (stored : (drawer.shelf.get (other.shelf.put ((other.shelf.get catalog).evict now otherKey)
      catalog)).stored? key = some entry) :
    (drawer.shelf.get catalog).stored? key = some entry := by
  by_cases same : drawer = other
  · subst same
    rw [get_put] at stored
    exact Cache.stored?_of_evict stored
  · rwa [get_put_of_ne same] at stored

/-- Looking a key up leaves a catalog faithful. -/
theorem Faithful.evict (faithful : Faithful env asked ttl catalog) (drawer : Drawer) (now : Nat)
    (key : String) :
    Faithful env asked ttl
      (drawer.shelf.put ((drawer.shelf.get catalog).evict now key) catalog) where
  holds topic member entry stored :=
    faithful.holds topic member entry (Drawer.stored?_of_put_evict stored)
  lives other := (Drawer.ttl_put (Cache.ttl_evict _ _ _) other).trans (faithful.lives other)

/-- Storing a list changes nothing about other keys and other drawers. -/
theorem Drawer.stored?_put_set {drawer other : Drawer} {key otherKey : String} {now : Nat}
    {items : List other.Entry} (apart : drawer = other → key ≠ otherKey) :
    (drawer.shelf.get (other.shelf.put ((other.shelf.get catalog).set now otherKey items)
      catalog)).stored? key = (drawer.shelf.get catalog).stored? key := by
  by_cases same : drawer = other
  · subst same
    rw [Drawer.get_put, Cache.stored?_set_of_ne (apart rfl)]
  · rw [Drawer.get_put_of_ne same]

/-- Storing the content of a topic leaves a catalog faithful. -/
theorem Faithful.set (faithful : Faithful env asked ttl catalog) (apart : Apart asked)
    (member : asked topic) {items : List topic.drawer.Entry}
    (content : topic.content env = .ok items) (now : Nat) :
    Faithful env asked ttl
      (topic.drawer.shelf.put ((topic.drawer.shelf.get catalog).set now topic.key items)
        catalog) where
  holds other otherMember entry stored := by
    by_cases shared : other.drawer = topic.drawer ∧ other.key = topic.key
    · cases apart other topic otherMember member shared.1 shared.2
      rw [Drawer.get_put, Cache.stored?_set_self] at stored
      cases stored
      exact content
    · rw [Drawer.stored?_put_set fun same equal => shared ⟨same, equal⟩] at stored
      exact faithful.holds other otherMember entry stored
  lives other := (Drawer.ttl_put (Cache.ttl_set _ _ _ _) other).trans (faithful.lives other)

end Faithful

/-- Work that ends in one way on every faithful catalog, and leaves it faithful. -/
def Keeps {α : Type} (env : Environment) (asked : Topic → Prop) (work : Work Session α)
    (outcome : Outcome α) : Prop :=
  ∀ ttl session, Faithful env asked ttl session.catalog →
    (work session).1 = outcome ∧ Faithful env asked ttl (work session).2.catalog

section Keeps

variable {α β : Type} {env : Environment} {asked : Topic → Prop}

/-- A value that is given leaves a catalog faithful. -/
theorem keeps_pure (value : α) : Keeps env asked (Pure.pure value) (.ok value) :=
  fun _ _ faithful => ⟨rfl, faithful⟩

/-- Work on the world does not touch the catalog. -/
theorem keeps_inSession {work : Work World α} (steady : work.Steady) :
    Keeps env asked work.inSession (work {}).1 :=
  fun _ session faithful => ⟨steady session.world {}, faithful⟩

/-- Work that leaves a catalog faithful does so whatever is made of its value. -/
theorem Keeps.map {work : Work Session α} {outcome : Outcome α}
    (keeps : Keeps env asked work outcome) (f : α → β) :
    Keeps env asked (do
      let value ← work
      return f value) (outcome.map f) := by
  intro ttl session faithful
  obtain ⟨ends, after⟩ := keeps ttl session faithful
  rw [Work.map_apply, ends]
  exact ⟨rfl, after⟩

/-- Reading a topic through its drawer is as good as obtaining it. -/
theorem keeps_through (apart : Apart asked) {topic : Topic} (member : asked topic)
    {obtain : Work Session (List topic.drawer.Entry)}
    (keeps : Keeps env asked obtain (topic.content env)) :
    Keeps env asked (topic.drawer.shelf.through topic.key obtain) (topic.content env) := by
  intro ttl session faithful
  have looked : Faithful env asked ttl (topic.drawer.shelf.afterLookup topic.key session).catalog :=
    faithful.evict topic.drawer session.world.now topic.key
  cases peeked : (topic.drawer.shelf.get session.catalog).peek? session.world.now topic.key with
  | some items =>
    rw [Shelf.through_of_found peeked]
    obtain ⟨entry, stored, -, rfl⟩ := Cache.peek?_eq_some_iff.mp peeked
    exact ⟨(faithful.holds topic member entry stored).symm, looked⟩
  | none =>
    rw [Shelf.through_of_missing peeked]
    obtain ⟨ends, after⟩ := keeps ttl _ looked
    rcases run : obtain (topic.drawer.shelf.afterLookup topic.key session) with ⟨reached, middle⟩
    rw [run] at ends after
    cases reached with
    | ok items => exact ⟨ends, after.set apart member ends.symm middle.world.now⟩
    | error cause => exact ⟨ends, after⟩
    | unfinished => exact ⟨ends, after⟩

end Keeps

section Topics

variable {env : Environment} {answers : String → Answer} {asked : Topic → Prop}

/-- A list of a whole project is the same in every world, when answers are fixed. -/
theorem Whole.steady_fetch (fixed : env.Fixed answers) (kind : Whole) (project : String) :
    (kind.fetch env project).Steady :=
  Page.steady_fetchAll fixed _ _

/-- A list of a part of a project is the same in every world, when answers are fixed. -/
theorem Part.steady_fetch (fixed : env.Fixed answers) (kind : Part) (project location : String) :
    (kind.fetch env project location).Steady :=
  (Page.steady_fetchAll fixed _ _).bind fun _ => Work.steady_pure _

/-- Obtaining a topic yields its content. Zones are read off the regions, so these must
be stored apart as well. -/
theorem Topic.keeps_obtain (fixed : env.Fixed answers) (apart : Apart asked) {topic : Topic}
    (regions : ∀ project region, topic = .zones project region → asked (.whole .regions project)) :
    Keeps env asked (topic.obtain env) (topic.content env) := by
  cases topic with
  | whole kind project => exact keeps_inSession (kind.steady_fetch fixed project)
  | part kind project location => exact keeps_inSession (kind.steady_fetch fixed project location)
  | zones project region =>
    refine Keeps.map ?_ (zonesOf region)
    have listed : asked (.whole .regions project) := regions project region rfl
    exact keeps_through apart listed (keeps_inSession (Whole.steady_fetch fixed .regions project))

end Topics

end Catalog

end VmLaunch
