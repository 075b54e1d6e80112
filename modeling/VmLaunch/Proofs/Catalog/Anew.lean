import VmLaunch.Proofs.Catalog.Query
import VmLaunch.Proofs.Provider.Walk

/-!
# Lists that are read anew

A list is read anew exactly when it is not stored live. What is stored under a key changes
only when that key is asked for: work `Spares` a key when it leaves its entry as it is, and
every query spares the lists of whole projects other than its own.
-/

namespace VmLaunch

/-- Work on the world is done as it is when its list is not stored live. -/
theorem Shelf.through_inSession {α : Type} {shelf : Shelf α} {key : String} {session : Session}
    (work : Work World (List α))
    (missing : (shelf.get session.catalog).peek? session.world.now key = none) :
    work session.world = ((shelf.through key work.inSession session).1,
      (shelf.through key work.inSession session).2.world) := by
  rw [through_of_missing missing]
  rcases run : work session.world with ⟨outcome, later⟩
  have obtained : work.inSession (shelf.afterLookup key session) = _ := Work.inSession_of_eq run
  rw [obtained]
  cases outcome <;> rfl

namespace Catalog

section Plain

variable {env : Environment} {session : Session}

/-- A list that is stored as it is fetched is walked anew exactly when it is not stored live. -/
theorem plain_anew_iff {α : Type} {shelf : Shelf α} {read : Json → Option α}
    {key path : String} :
    Page.fetchAll env read path session.world =
        ((plain env shelf read key path session).1,
          (plain env shelf read key path session).2.world) ↔
      (shelf.get session.catalog).peek? session.world.now key = none := by
  cases peeked : (shelf.get session.catalog).peek? session.world.now key with
  | none => exact iff_of_true (Shelf.through_inSession _ peeked) rfl
  | some items =>
    refine iff_of_false (fun anew => ?_) (by simp)
    -- A walk that ends with items has asked for a page at least.
    have found : plain env shelf read key path session =
        (.ok items, shelf.afterLookup key session) := Shelf.through_of_found peeked
    obtain ⟨exchanges, added, walking, -⟩ :=
      Page.walk_follows env read path env.patience none [] session.world
    have walked : Page.walk env read path env.patience none [] session.world =
        (.ok items, session.world) := by
      rw [found] at anew
      exact anew
    rw [walked] at added walking
    rw [List.map_id] at added
    exact walking.exchanges_ne_nil (List.self_eq_append_right.mp added)

/-- The firewall rules of a project that a catalog has stored live. -/
def knownRules (catalog : Catalog) (now : Nat) (project : String) : Option (List ListedRule) :=
  (Shelf.firewalls.get catalog).peek? now (firewallsKey project)

/-- A catalog whose stored firewall rules of a project were dropped. -/
def withoutRules (catalog : Catalog) (project : String) : Catalog :=
  Shelf.firewalls.put ((Shelf.firewalls.get catalog).erase (firewallsKey project)) catalog

/-- Rules that were dropped are not known. -/
@[simp]
theorem knownRules_withoutRules (catalog : Catalog) (now : Nat) (project : String) :
    (catalog.withoutRules project).knownRules now project = none :=
  Cache.peek?_erase_self _ _ _

/-- Listing the firewall rules of a project comes to walking them from where the world is. -/
def ListsAnew (env : Environment) (project : String) (session : Session) : Prop :=
  Page.fetchAll env ListedRule.decode (globalParent project "firewalls") session.world =
    ((listFirewalls env project session).1, (listFirewalls env project session).2.world)

/-- Rules are listed anew when none are known. -/
theorem listsAnew_iff {project : String} :
    ListsAnew env project session ↔
      session.catalog.knownRules session.world.now project = none :=
  plain_anew_iff

/-- Known rules are listed as they are, and nobody is asked. -/
theorem listFirewalls_of_known {project : String} {rules : List ListedRule}
    (known : session.catalog.knownRules session.world.now project = some rules) :
    (listFirewalls env project session).1 = .ok rules ∧
      (listFirewalls env project).made session = [] := by
  have found : listFirewalls env project session =
      (.ok rules, Shelf.firewalls.afterLookup (firewallsKey project) session) :=
    Shelf.through_of_found known
  refine ⟨congrArg Prod.fst found, Work.made_eq ?_⟩
  rw [found]
  exact (List.append_nil _).symm

end Plain

/-- Work that leaves the entry under a key of a drawer as it is. -/
def Spares {α : Type} (drawer : Drawer) (key : String) (work : Work Session α) : Prop :=
  ∀ session, (drawer.shelf.get (work session).2.catalog).stored? key =
    (drawer.shelf.get session.catalog).stored? key

section Spares

variable {α β : Type} {env : Environment} {drawer other : Drawer} {key otherKey : String}

/-- A value that is given touches no entry. -/
theorem spares_pure (value : α) : Spares drawer key (Pure.pure value) :=
  fun _ => rfl

/-- Work on the world does not touch the catalog. -/
theorem spares_inSession (work : Work World α) : Spares drawer key work.inSession :=
  fun _ => rfl

/-- Work that spares an entry does so whatever is made of its value. -/
theorem Spares.map {work : Work Session α} (spares : Spares drawer key work) (f : α → β) :
    Spares drawer key (do
      let value ← work
      return f value) := by
  intro session
  rw [Work.map_apply]
  exact spares session

/-- Reading a key spares every other. -/
theorem spares_through (apart : drawer = other → key ≠ otherKey)
    {obtain : Work Session (List other.Entry)} (spares : Spares drawer key obtain) :
    Spares drawer key (other.shelf.through otherKey obtain) := by
  intro session
  have looked : (drawer.shelf.get (other.shelf.afterLookup otherKey session).catalog).stored? key =
      (drawer.shelf.get session.catalog).stored? key := by
    by_cases same : drawer = other
    · subst same
      rw [Shelf.afterLookup, Drawer.get_put, Cache.stored?_evict_of_ne (apart rfl)]
    · rw [Shelf.afterLookup, Drawer.get_put_of_ne same]
  cases peeked : (other.shelf.get session.catalog).peek? session.world.now otherKey with
  | some items => rw [Shelf.through_of_found peeked, looked]
  | none =>
    have obtained := spares (other.shelf.afterLookup otherKey session)
    rw [Shelf.through_of_missing peeked]
    rcases run : obtain (other.shelf.afterLookup otherKey session) with ⟨_ | _ | _, middle⟩
    · rw [run] at obtained
      exact (Drawer.stored?_put_set apart).trans (obtained.trans looked)
    · rw [run] at obtained
      exact obtained.trans looked
    · rw [run] at obtained
      exact obtained.trans looked

/-- Topics spare the entries of whole projects' lists other than those that they read. -/
theorem Topic.spares_read (kind : Whole) (project : String) {topic : Topic}
    (apart : topic ≠ .whole kind project) (regions : kind ≠ .regions) :
    Spares kind.drawer (Topic.whole kind project).key (topic.read env) := by
  have keys : ∀ {other : Topic}, other ≠ .whole kind project → kind.drawer = other.drawer →
      (Topic.whole kind project).key ≠ other.key :=
    fun different sameDrawer sameKey => different (whole_eq_of_key_eq sameDrawer sameKey).symm
  refine spares_through (keys apart) ?_
  cases topic with
  | whole otherKind otherProject => exact spares_inSession _
  | part otherKind otherProject location => exact spares_inSession _
  | zones otherProject region =>
    have listed : Spares kind.drawer (Topic.whole kind project).key
        ((Topic.whole .regions otherProject).read env) := by
      refine spares_through (keys ?_) (spares_inSession _)
      rintro ⟨⟩
      exact regions rfl
    exact listed.map (zonesOf region)

/-- Queries spare the firewall rules of projects, other than that which they ask for. -/
theorem Query.spares_perform {query : Query} {project : String}
    (apart : query ≠ .firewalls project) :
    Spares .firewalls (firewallsKey project) (query.perform env) := by
  by_cases lookedUp : query.IsLookedUp
  · rw [perform_eq_read env lookedUp]
    refine (Topic.spares_read .firewalls project (fun same => apart ?_) nofun).map query.view
    cases query <;> cases same
    rfl
  · rw [perform_eq_nil env lookedUp]
    exact spares_pure []

end Spares

/-- Sessions after queries and the passing of time, without a query for the firewall rules
of a project. -/
inductive Unasked (env : Environment) (project : String) : Session → Session → Prop where
  | refl (session : Session) : Unasked env project session session
  | performed {session later} (before : Unasked env project session later) (query : Query)
      (apart : query ≠ .firewalls project) :
      Unasked env project session (query.perform env later).2
  | advanced {session later} (before : Unasked env project session later) (d : Duration) :
      Unasked env project session { later with world := later.world.advance d }

/-- Rules that are not asked for are known as long as they live. -/
theorem Unasked.knownRules {env : Environment} {project : String} {session later : Session}
    (unasked : Unasked env project session later) (now : Nat) :
    later.catalog.knownRules now project = session.catalog.knownRules now project := by
  induction unasked with
  | refl => rfl
  | performed before query apart inductionHypothesis =>
    exact (Cache.peek?_congr (Query.spares_perform apart _)).trans inductionHypothesis
  | advanced before d inductionHypothesis => exact inductionHypothesis

end Catalog

end VmLaunch
