import VmLaunch.Proofs.Catalog.Alike
import VmLaunch.Proofs.Catalog.Anew

/-!
# Topics at hand

A topic is at hand when its list is stored live, or when it is the zones of a project whose
regions are. What is at hand is read without asking, and reading any other topic comes to one walk
through the pages of its list, which fails with the first page that is refused.
-/

namespace VmLaunch

/-- Work that fails with every refusal that it meets. -/
def Work.Heeds {α : Type} (refuses : Answer → LaunchError → Prop) (work : Work World α) : Prop :=
  ∀ world, ∀ exchange ∈ work.made world, ∀ cause, refuses exchange.answer cause →
    (work world).1 = .error cause

/-- Work that fails with what it is refused does so whatever is made of its value. -/
theorem Work.Heeds.map {α β : Type} {refuses : Answer → LaunchError → Prop} {work : Work World α}
    (heeds : work.Heeds refuses) (f : α → β) :
    Work.Heeds refuses (do
      let value ← work
      return f value) := by
  intro world exchange member cause refused
  rw [made, map_apply] at member
  rw [map_apply, heeds world exchange member cause refused]
  rfl

namespace Page

variable {α : Type} {read : Json → Option α} {list : String}

/-- A walk ends with the page that is refused. -/
theorem Walking.heeds {rounds : Nat} {token : Option String} {items : List α}
    {exchanges : List Exchange} {outcome : Outcome (List α)} {cause : LaunchError}
    (walking : Walking read list rounds token items exchanges outcome) {exchange : Exchange}
    (member : exchange ∈ exchanges) (refused : judge read list exchange.answer = .error cause) :
    outcome = .error cause := by
  induction walking with
  | unfinished => cases member
  | refused asked judged =>
    cases List.mem_singleton.mp member
    exact congrArg Outcome.error (Except.error.inj (judged.symm.trans refused))
  | last asked judged ends =>
    cases List.mem_singleton.mp member
    cases judged.symm.trans refused
  | more asked judged leads after inductionHypothesis =>
    rcases List.mem_cons.mp member with rfl | later
    · cases judged.symm.trans refused
    · exact inductionHypothesis later

/-- To fetch all pages of a list fails with a page that is refused. -/
theorem heeds_fetchAll (env : Environment) (read : Json → Option α) (list : String) :
    (fetchAll env read list).Heeds fun answer cause => judge read list answer = .error cause := by
  intro world exchange member cause refused
  obtain ⟨exchanges, added, walking, -⟩ := walk_follows env read list env.patience none [] world
  rw [List.map_id] at added
  have made : (fetchAll env read list).made world = exchanges := Work.made_eq added
  rw [made] at member
  exact walking.heeds member refused

end Page

namespace Catalog

variable (env : Environment)

/-- Walk the list that a topic is made of. -/
def Topic.walk : (topic : Topic) → Work World (List topic.drawer.Entry)
  | .whole kind project => kind.fetch env project
  | .part kind project location => kind.fetch env project location
  | .zones project region => do
    let regions ← Whole.regions.fetch env project
    return zonesOf region regions

/-- An answer that is no page of the list that a topic is made of, and the error that it comes
to. -/
def Topic.Refuses (answer : Answer) (cause : LaunchError) : Topic → Prop
  | .whole kind project => Page.judge kind.decode (kind.path project) answer = .error cause
  | .part kind project location =>
    Page.judge kind.decode (kind.path project location) answer = .error cause
  | .zones project _ =>
    Page.judge Whole.regions.decode (Whole.regions.path project) answer = .error cause

/-- To walk the list of a topic fails with a page that is refused. -/
theorem Topic.heeds_walk (topic : Topic) :
    (topic.walk env).Heeds fun answer cause => topic.Refuses answer cause := by
  cases topic with
  | whole kind project => exact Page.heeds_fetchAll env _ _
  | part kind project location => exact (Page.heeds_fetchAll env _ _).map _
  | zones project region => exact Work.Heeds.map (Page.heeds_fetchAll env _ _) (zonesOf region)

/-- The topic is stored live. -/
def Topic.IsLive (session : Session) (topic : Topic) : Prop :=
  (topic.drawer.shelf.get session.catalog).peek? session.world.now topic.key ≠ none

/-- The topic is stored live, or derived from one that is. -/
inductive Topic.IsAtHand (session : Session) : Topic → Prop where
  | stored {topic} (live : topic.IsLive session) : IsAtHand session topic
  | derived {project region} (live : (Topic.whole .regions project).IsLive session) :
      IsAtHand session (.zones project region)

/-- A list that is not stored live ends as obtaining it does, and takes the world as far. -/
theorem through_eq_obtain {drawer : Drawer} {key : String} {session : Session}
    (obtain : Work Session (List drawer.Entry))
    (missing : (drawer.shelf.get session.catalog).peek? session.world.now key = none) :
    (drawer.shelf.through key obtain session).1 =
        (obtain (drawer.shelf.afterLookup key session)).1 ∧
      (drawer.shelf.through key obtain session).2.world =
        (obtain (drawer.shelf.afterLookup key session)).2.world := by
  rw [Shelf.through_of_missing missing]
  rcases obtain (drawer.shelf.afterLookup key session) with ⟨_ | _ | _, later⟩ <;> exact ⟨rfl, rfl⟩

/-- Zones that are not stored live are made of the regions as these are read. -/
theorem read_zones {project : String} {region : Option String} {session : Session}
    (missing : ¬ (Topic.zones project region).IsLive session) :
    ∃ looked : Session, looked.world = session.world ∧
      Shelf.regions.get looked.catalog = Shelf.regions.get session.catalog ∧
      ((Topic.zones project region).read env session).1 =
        ((Topic.whole .regions project).read env looked).1.map (zonesOf region) ∧
      ((Topic.zones project region).read env session).2.world =
        ((Topic.whole .regions project).read env looked).2.world := by
  obtain ⟨ends, worlds⟩ :=
    through_eq_obtain ((Topic.zones project region).obtain env) (Classical.not_not.mp missing)
  rw [Topic.obtain, Work.map_apply] at ends worlds
  have regions : Drawer.regions ≠ .zones := nofun
  exact ⟨Shelf.zones.afterLookup (Topic.zones project region).key session, rfl,
    Drawer.get_put_of_ne regions _, ends, worlds⟩

/-- A topic that is stored live is read as it is stored. -/
theorem Topic.IsLive.read {topic : Topic} {session : Session} (live : topic.IsLive session) :
    ∃ items, (topic.read env session).1 = .ok items ∧
      (topic.read env session).2.world = session.world := by
  obtain ⟨items, found⟩ := Option.ne_none_iff_exists'.mp live
  have read : topic.read env session =
      (.ok items, topic.drawer.shelf.afterLookup topic.key session) := Shelf.through_of_found found
  rw [read]
  exact ⟨items, rfl, rfl⟩

/-- A topic at hand is read without asking. -/
theorem Topic.IsAtHand.read {topic : Topic} {session : Session} (atHand : topic.IsAtHand session) :
    ∃ items, (topic.read env session).1 = .ok items ∧
      (topic.read env session).2.world = session.world := by
  cases atHand with
  | stored live => exact live.read env
  | @derived project region live =>
    by_cases zonesLive : (Topic.zones project region).IsLive session
    · exact zonesLive.read env
    · obtain ⟨looked, world, regions, ends, worlds⟩ := read_zones env zonesLive
      have regionsLive : (Topic.whole .regions project).IsLive looked := by
        rw [Topic.IsLive] at live ⊢
        change (Shelf.regions.get looked.catalog).peek? _ _ ≠ none
        rwa [world, regions]
      obtain ⟨items, listed, still⟩ := regionsLive.read env
      rw [listed] at ends
      exact ⟨_, ends, worlds.trans (still.trans world)⟩

/-- Any other topic is walked. -/
theorem Topic.read_of_not_atHand {topic : Topic} {session : Session}
    (away : ¬ topic.IsAtHand session) :
    topic.walk env session.world =
      ((topic.read env session).1, (topic.read env session).2.world) := by
  have missing : ¬ topic.IsLive session := fun live => away (.stored live)
  cases topic with
  | whole kind project => exact Shelf.through_inSession _ (Classical.not_not.mp missing)
  | part kind project location => exact Shelf.through_inSession _ (Classical.not_not.mp missing)
  | zones project region =>
    obtain ⟨looked, world, regions, ends, worlds⟩ := read_zones env missing
    have regionsMissing : (Shelf.regions.get looked.catalog).peek? looked.world.now
        (Topic.whole .regions project).key = none := by
      rw [world, regions]
      exact Classical.not_not.mp fun live => away (.derived live)
    have walked : Whole.regions.fetch env project looked.world =
        (((Topic.whole .regions project).read env looked).1,
          ((Topic.whole .regions project).read env looked).2.world) :=
      Shelf.through_inSession _ regionsMissing
    have mapped := Work.map_apply (Whole.regions.fetch env project) (zonesOf region) looked.world
    rw [walked, world] at mapped
    exact mapped.trans (Prod.ext ends.symm worlds.symm)

/-- Walk the list that a query is answered from, and make its answer of it. -/
def Query.walk (query : Query) : Work World (List query.Item) := do
  let items ← query.topic.walk env
  return query.view items

/-- The walk of a query does not turn the clock back. -/
theorem Query.onward_walk (query : Query) : (query.walk env).Onward := by
  have pages : ∀ {α : Type} (decode : Json → Option α) (path : String),
      (Page.fetchAll env decode path).Onward := fun _ _ => Page.onward_walk env _ _ _ _ _
  refine Work.Onward.bind ?_ fun _ => Work.onward_pure _
  cases query.topic with
  | whole kind project => exact pages _ _
  | part kind project location => exact (pages _ _).bind fun _ => Work.onward_pure _
  | zones project region => exact Work.Onward.bind (pages _ _) fun _ => Work.onward_pure _

/-- A query at hand is answered without asking. -/
theorem Query.perform_of_atHand {query : Query} {session : Session} (lookedUp : query.IsLookedUp)
    (atHand : query.topic.IsAtHand session) :
    ∃ items, (query.perform env session).1 = .ok items ∧
      (query.perform env session).2.world = session.world := by
  obtain ⟨items, found, still⟩ := atHand.read env
  rw [perform_eq_read env lookedUp, Work.map_apply, found]
  exact ⟨_, rfl, still⟩

/-- Any other query that is looked up comes to one walk. -/
theorem Query.perform_of_not_atHand {query : Query} {session : Session}
    (lookedUp : query.IsLookedUp) (away : ¬ query.topic.IsAtHand session) :
    query.walk env session.world =
      ((query.perform env session).1, (query.perform env session).2.world) := by
  rw [perform_eq_read env lookedUp, Work.map_apply, walk, Work.map_apply,
    Topic.read_of_not_atHand env away]

/-- A query at hand makes no exchange. -/
theorem Query.made_of_atHand {query : Query} {session : Session} (lookedUp : query.IsLookedUp)
    (atHand : query.topic.IsAtHand session) : (query.perform env).made session = [] := by
  obtain ⟨items, -, still⟩ := perform_of_atHand env lookedUp atHand
  refine Work.made_eq ?_
  change (query.perform env session).2.world.history = _
  rw [still]
  exact (List.append_nil _).symm

/-- A query that is not at hand makes the exchanges of its walk. -/
theorem Query.made_of_not_atHand {query : Query} {session : Session}
    (lookedUp : query.IsLookedUp) (away : ¬ query.topic.IsAtHand session) :
    (query.perform env).made session = (query.walk env).made session.world := by
  rw [Work.made, Work.made, perform_of_not_atHand env lookedUp away]
  rfl

/-- A query fails with every page of its walk that is refused. -/
theorem Query.perform_heeds (query : Query) {session : Session} {exchange : Exchange}
    {cause : LaunchError} (member : exchange ∈ (query.perform env).made session)
    (refused : query.topic.Refuses exchange.answer cause) :
    (query.perform env session).1 = .error cause := by
  by_cases lookedUp : query.IsLookedUp
  · by_cases atHand : query.topic.IsAtHand session
    · rw [made_of_atHand env lookedUp atHand] at member
      cases member
    · rw [made_of_not_atHand env lookedUp atHand] at member
      have heeds := (query.topic.heeds_walk env).map query.view
      have walked := perform_of_not_atHand env lookedUp atHand
      exact (congrArg Prod.fst walked).symm.trans (heeds _ exchange member cause refused)
  · rw [Work.made, perform_eq_nil env lookedUp] at member
    change exchange ∈ List.drop _ (Recording.history session) at member
    rw [List.drop_length] at member
    cases member

/-- Asking does not turn the clock back. -/
theorem Query.now_le_perform (query : Query) (session : Session) :
    session.world.now ≤ (query.perform env session).2.world.now := by
  by_cases lookedUp : query.IsLookedUp
  · by_cases atHand : query.topic.IsAtHand session
    · obtain ⟨items, -, still⟩ := perform_of_atHand env lookedUp atHand
      exact Nat.le_of_eq (congrArg World.now still).symm
    · have onward := query.onward_walk env session.world
      rwa [perform_of_not_atHand env lookedUp atHand] at onward
  · rw [perform_eq_nil env lookedUp]
    exact Nat.le_refl _

/-- Nothing is at hand in a fresh catalog. -/
theorem Topic.not_atHand_start (topic : Topic) (ttl : Duration) :
    ¬ topic.IsAtHand (.start ttl) := by
  have missing : ∀ topic : Topic, ¬ topic.IsLive (.start ttl) := by
    intro topic live
    rw [IsLive, Session.start, Drawer.get_fresh] at live
    exact live rfl
  rintro (live | live) <;> exact missing _ live

end Catalog

end VmLaunch
