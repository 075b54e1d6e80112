import VmLaunch.Proofs.Catalog.Query
import VmLaunch.Proofs.Provider.Walk

/-!
# Where lists come from

A list is `Drawn` from exchanges when it is what their answers make up. A session is
`Sourced` when every list that it stores was drawn from exchanges of its past and expires
within a lifetime after each of them. `Topic.draws_read` says that reading topics keeps
sessions sourced, and of which age the answers are that a reading is drawn from.
-/

namespace VmLaunch.Catalog

/-- Lists that answers make up, by drawer and key. -/
inductive Drawn : (drawer : Drawer) → String → List Exchange → List drawer.Entry → Prop where
  | whole {kind : Whole} {project : String} {rounds : Nat} {exchanges items}
      (walking : Page.Walking kind.decode (kind.path project) rounds none [] exchanges
        (.ok items)) :
      Drawn kind.drawer (Topic.whole kind project).key exchanges items
  | part {kind : Part} {project location : String} {rounds : Nat} {exchanges items}
      (walking : Page.Walking kind.decode (kind.path project location) rounds none [] exchanges
        (.ok items)) :
      Drawn kind.drawer (Topic.part kind project location).key exchanges
        (items.map (kind.finish location))
  | zones {project : String} {region : Option String} {exchanges regions}
      (listed : Drawn .regions (Topic.whole .regions project).key exchanges regions) :
      Drawn .zones (Topic.zones project region).key exchanges (zonesOf region regions)

/-- What is drawn is drawn from exchanges. -/
theorem Drawn.exchanges_ne_nil {drawer : Drawer} {key : String} {exchanges : List Exchange}
    {items : List drawer.Entry} (drawn : Drawn drawer key exchanges items) : exchanges ≠ [] := by
  induction drawn with
  | whole walking => exact walking.exchanges_ne_nil
  | part walking => exact walking.exchanges_ne_nil
  | zones listed inductionHypothesis => exact inductionHypothesis

/-- How long after an answer the lists that it makes up may be live. Zones are read off
regions that may be about to expire, and live on for as long again. -/
def Drawer.lifetime (ttl : Duration) : Drawer → Nat
  | .zones => ttl.span.nanos - 1 + ttl.span.nanos
  | _ => ttl.span.nanos

/-- Nothing lives shorter than a list that is stored as it is fetched. -/
theorem Drawer.span_le_lifetime (ttl : Duration) (drawer : Drawer) :
    ttl.span.nanos ≤ drawer.lifetime ttl := by
  cases drawer <;> simp [lifetime]

/-- Looking a key up changes nothing about how long lists live. -/
theorem Drawer.ttl_afterLookup (drawer other : Drawer) (key : String) (session : Session) :
    (drawer.shelf.get (other.shelf.afterLookup key session).catalog).ttl =
      (drawer.shelf.get session.catalog).ttl :=
  ttl_put (Cache.ttl_evict _ _ _) drawer

/-- Every stored list was drawn from exchanges of the past and expires within a lifetime
after each, and lists live for one time. -/
structure Sourced (ttl : Duration) (session : Session) : Prop where
  drawn : ∀ (drawer : Drawer) (key : String) (entry : Stored (List drawer.Entry)),
    (drawer.shelf.get session.catalog).stored? key = some entry →
      ∃ exchanges, Drawn drawer key exchanges entry.value ∧ ∀ exchange ∈ exchanges,
        exchange ∈ session.world.history ∧ entry.expires ≤ exchange.time + drawer.lifetime ttl
  lives : ∀ drawer : Drawer, (drawer.shelf.get session.catalog).ttl = ttl

section Sourced

variable {ttl : Duration} {session : Session} {drawer : Drawer} {key : String}

/-- A fresh catalog has nothing stored that would need a source. -/
theorem sourced_fresh (ttl : Duration) (world : World) : Sourced ttl ⟨world, fresh ttl⟩ where
  drawn drawer key entry stored := by
    rw [Drawer.get_fresh] at stored
    cases stored
  lives drawer := by
    rw [Drawer.get_fresh]
    rfl

/-- Sources stay in a world that forgets no exchange. -/
theorem Sourced.onward (sourced : Sourced ttl session) {world : World}
    (retained : ∀ exchange ∈ session.world.history, exchange ∈ world.history) :
    Sourced ttl { session with world := world } where
  drawn drawer key entry stored := by
    obtain ⟨exchanges, drawn, past⟩ := sourced.drawn drawer key entry stored
    refine ⟨exchanges, drawn, fun exchange member => ?_⟩
    exact ⟨retained exchange (past exchange member).1, (past exchange member).2⟩
  lives := sourced.lives

/-- Looking a key up leaves a session sourced. -/
theorem Sourced.afterLookup (sourced : Sourced ttl session) (drawer : Drawer) (key : String) :
    Sourced ttl (drawer.shelf.afterLookup key session) where
  drawn other otherKey entry stored :=
    sourced.drawn other otherKey entry (Drawer.stored?_of_put_evict stored)
  lives other := (other.ttl_afterLookup drawer key session).trans (sourced.lives other)

/-- Storing a list that was drawn from exchanges of the past leaves a session sourced. -/
theorem Sourced.afterStore (sourced : Sourced ttl session) {items : List drawer.Entry}
    {exchanges : List Exchange} (drawn : Drawn drawer key exchanges items)
    (past : ∀ exchange ∈ exchanges, exchange ∈ session.world.history ∧
      session.world.now + ttl.span.nanos ≤ exchange.time + drawer.lifetime ttl) :
    Sourced ttl (drawer.shelf.afterStore key items session) where
  drawn other otherKey entry stored := by
    by_cases same : other = drawer ∧ otherKey = key
    · obtain ⟨rfl, rfl⟩ := same
      rw [Shelf.afterStore, Drawer.get_put, Cache.stored?_set_self] at stored
      cases stored
      refine ⟨exchanges, drawn, fun exchange member => ?_⟩
      rw [Cache.expiry, Duration.after, sourced.lives]
      exact past exchange member
    · rw [Shelf.afterStore,
        Drawer.stored?_put_set fun equal sameKey => same ⟨equal, sameKey⟩] at stored
      exact sourced.drawn other otherKey entry stored
  lives other := (Drawer.ttl_put (Cache.ttl_set _ _ _ _) other).trans (sourced.lives other)

end Sourced

/-- Exchanges that were made just now, or earlier in a session and are younger than an age. -/
def Recent (age : Nat) (session : Session) (made : List Exchange) (exchange : Exchange) : Prop :=
  exchange ∈ made ∨
    exchange ∈ session.world.history ∧ session.world.now < exchange.time + age

/-- What reading a sourced session comes to: it takes no time, leaves the session sourced,
and ends with items only if these are drawn from recent exchanges. -/
structure Drawing {α : Type} (ttl : Duration) (age : Nat)
    (drawn : List Exchange → List α → Prop) (session : Session) (made : List Exchange)
    (result : Outcome (List α) × Session) : Prop where
  still : result.2.world.now = session.world.now
  added : result.2.world.history = session.world.history ++ made
  timed : ∀ exchange ∈ made, exchange.time = session.world.now
  sourced : Sourced ttl result.2
  recent : ∀ items, result.1 = .ok items →
    ∃ exchanges, drawn exchanges items ∧ ∀ exchange ∈ exchanges, Recent age session made exchange

/-- Work that draws its items from recent exchanges, from every sourced session. -/
def Draws {α : Type} (ttl : Duration) (age : Nat) (drawn : List Exchange → List α → Prop)
    (work : Work Session (List α)) : Prop :=
  ∀ session, Sourced ttl session → ∃ made, Drawing ttl age drawn session made (work session)

section Draws

variable {env : Environment} {ttl : Duration} {age : Nat} {α β : Type}

/-- A walk draws its items from the exchanges that it makes. -/
theorem draws_fetchAll {drawn : List Exchange → List α → Prop} (prompt : env.Prompt)
    (read : Json → Option α) (list : String)
    (makes : ∀ {rounds exchanges items},
      Page.Walking read list rounds none [] exchanges (.ok items) → drawn exchanges items) :
    Draws ttl 0 drawn (Page.fetchAll env read list).inSession := by
  intro session sourced
  obtain ⟨made, added, walking, -⟩ :=
    Page.walk_follows env read list env.patience none [] session.world
  rw [List.map_id] at added
  obtain ⟨still, again, alike, timed⟩ :=
    Page.instant_walk prompt read list env.patience none [] session.world
  have same : made = again := List.append_cancel_left (added.symm.trans alike)
  refine ⟨made, still, added, same ▸ timed, sourced.onward fun exchange member => ?_, ?_⟩
  · have retained : exchange ∈ session.world.history ++ made := List.mem_append_left _ member
    rwa [same, ← alike] at retained
  · intro items ends
    have walked : Page.Walking read list env.patience none [] made (.ok items) := by
      rw [← ends]
      exact walking
    exact ⟨made, makes walked, fun exchange member => .inl member⟩

/-- Items that are changed are drawn from the same exchanges. -/
theorem Draws.map {drawn : List Exchange → List α → Prop} {wide : List Exchange → List β → Prop}
    {work : Work Session (List α)} (draws : Draws ttl age drawn work) (f : List α → List β)
    (widen : ∀ exchanges items, drawn exchanges items → wide exchanges (f items)) :
    Draws ttl age wide (do
      let items ← work
      return f items) := by
  intro session sourced
  obtain ⟨made, drawing⟩ := draws session sourced
  rw [Work.map_apply]
  refine ⟨made, drawing.still, drawing.added, drawing.timed, drawing.sourced, ?_⟩
  intro changed ends
  cases outcome : (work session).1 with
  | ok items =>
    rw [outcome] at ends
    cases ends
    obtain ⟨exchanges, drawn, recent⟩ := drawing.recent items outcome
    exact ⟨exchanges, widen exchanges items drawn, recent⟩
  | error cause =>
    rw [outcome] at ends
    cases ends
  | unfinished =>
    rw [outcome] at ends
    cases ends

/-- What was drawn from may be stored: its exchanges are past, and a list that is stored now
outlives them by its own time and by what they have aged. -/
theorem Drawing.past {drawn : List Exchange → List α → Prop} {session : Session}
    {made : List Exchange} {result : Outcome (List α) × Session}
    (drawing : Drawing ttl age drawn session made result) {exchange : Exchange}
    (recent : Recent age session made exchange) :
    exchange ∈ result.2.world.history ∧
      result.2.world.now + ttl.span.nanos ≤ exchange.time + (age - 1 + ttl.span.nanos) := by
  rw [drawing.added, drawing.still, List.mem_append]
  rcases recent with new | ⟨old, young⟩
  · have stamp := drawing.timed exchange new
    exact ⟨.inr new, by omega⟩
  · exact ⟨.inl old, by omega⟩

/-- A list that is read through its drawer was drawn within the drawer's lifetime. -/
theorem draws_through {drawer : Drawer} {key : String}
    {obtain : Work Session (List drawer.Entry)} (draws : Draws ttl age (Drawn drawer key) obtain)
    (within : age ≤ drawer.lifetime ttl)
    (leaves : age - 1 + ttl.span.nanos ≤ drawer.lifetime ttl) :
    Draws ttl (drawer.lifetime ttl) (Drawn drawer key) (drawer.shelf.through key obtain) := by
  intro session sourced
  have looked := sourced.afterLookup drawer key
  cases peeked : (drawer.shelf.get session.catalog).peek? session.world.now key with
  | some items =>
    rw [Shelf.through_of_found peeked]
    refine ⟨[], rfl, (List.append_nil _).symm, by simp, looked, ?_⟩
    rintro _ ⟨⟩
    obtain ⟨entry, stored, live, rfl⟩ := Cache.peek?_eq_some_iff.mp peeked
    obtain ⟨exchanges, drawn, past⟩ := sourced.drawn drawer key entry stored
    refine ⟨exchanges, drawn, fun exchange member => .inr ⟨(past exchange member).1, ?_⟩⟩
    exact Nat.lt_of_lt_of_le live (past exchange member).2
  | none =>
    rw [Shelf.through_of_missing peeked]
    obtain ⟨made, drawing⟩ := draws _ looked
    rcases run : obtain (drawer.shelf.afterLookup key session) with ⟨outcome, middle⟩
    rw [run] at drawing
    have still : middle.world.now = session.world.now := drawing.still
    have added : middle.world.history = session.world.history ++ made := drawing.added
    cases outcome with
    | ok items =>
      obtain ⟨exchanges, drawn, recent⟩ := drawing.recent items rfl
      have stored : Sourced ttl (drawer.shelf.afterStore key items middle) := by
        refine drawing.sourced.afterStore drawn fun exchange member => ?_
        obtain ⟨past, expiry⟩ := drawing.past (recent exchange member)
        exact ⟨past, Nat.le_trans expiry (Nat.add_le_add_left leaves _)⟩
      refine ⟨made, still, added, drawing.timed, stored, ?_⟩
      rintro _ ⟨⟩
      refine ⟨exchanges, drawn, fun exchange member => (recent exchange member).imp_right ?_⟩
      rintro ⟨past, young⟩
      exact ⟨past, Nat.lt_of_lt_of_le young (Nat.add_le_add_left within _)⟩
    | error cause => exact ⟨made, still, added, drawing.timed, drawing.sourced, nofun⟩
    | unfinished => exact ⟨made, still, added, drawing.timed, drawing.sourced, nofun⟩

/-- Reading a topic draws its list within the lifetime of its drawer. -/
theorem Topic.draws_read (prompt : env.Prompt) (topic : Topic) :
    Draws ttl (topic.drawer.lifetime ttl) (Drawn topic.drawer topic.key) (topic.read env) := by
  have walked : ∀ {drawer : Drawer} {key : String} {obtain : Work Session (List drawer.Entry)},
      Draws ttl 0 (Drawn drawer key) obtain →
        Draws ttl (drawer.lifetime ttl) (Drawn drawer key) (drawer.shelf.through key obtain) :=
    fun draws => draws_through draws (Nat.zero_le _) (by simpa using Drawer.span_le_lifetime ttl _)
  have whole : ∀ (kind : Whole) (project : String),
      Draws ttl (kind.drawer.lifetime ttl) (Drawn kind.drawer (Topic.whole kind project).key)
        ((Topic.whole kind project).read env) :=
    fun kind project => walked (draws_fetchAll prompt _ _ fun walking => .whole walking)
  cases topic with
  | whole kind project => exact whole kind project
  | part kind project location =>
    refine walked ?_
    rw [obtain, Part.fetch, Work.inSession_map]
    have fetched : Draws ttl 0
        (fun exchanges items => ∃ rounds,
          Page.Walking kind.decode (kind.path project location) rounds none [] exchanges
            (.ok items))
        (Page.fetchAll env kind.decode (kind.path project location)).inSession :=
      draws_fetchAll prompt _ _ fun walking => ⟨_, walking⟩
    refine fetched.map _ ?_
    rintro exchanges items ⟨rounds, walking⟩
    exact .part walking
  | zones project region =>
    refine draws_through ?_ (Nat.le_add_left _ _) (Nat.le_refl _)
    refine (whole .regions project).map (zonesOf region) ?_
    exact fun exchanges regions listed => .zones listed

end Draws

end VmLaunch.Catalog
