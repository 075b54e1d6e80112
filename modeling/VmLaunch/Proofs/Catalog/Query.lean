import VmLaunch.Proofs.Catalog.Faithful
import VmLaunch.Proofs.Catalog.Key
import VmLaunch.Proofs.Catalog.Readings

/-!
# Queries

What can be asked of a catalog. A query that is looked up is answered by a `view` of a
topic. Queries are `Separate` when those that are answered from one stored list ask for
one topic, and then every query ends in one way on every faithful catalog.
-/

namespace VmLaunch.Catalog

/-- What can be asked of a catalog. -/
inductive Query where
  | regions (project : String)
  | zones (project : String) (region : Option String)
  | machineTypes (project zone : String)
  | diskTypes (project zone : String)
  | publicImages (imageProject : String)
  | customImages (project : String)
  | imageFamilies (imageProject : String)
  | disks (project zone : String)
  | snapshots (project : String)
  | resourcePolicies (project region : String)
  | networks (project : String)
  | subnetworks (project region : String)
  | addresses (project region : String)
  | firewalls (project : String)
  deriving DecidableEq

namespace Query

/-- What the answer to a query is a list of. -/
def Item : Query → Type
  | .regions _ => Region
  | .zones _ _ => Zone
  | .machineTypes _ _ => MachineType
  | .diskTypes _ _ => DiskType
  | .publicImages _ => Image
  | .customImages _ => Image
  | .imageFamilies _ => String
  | .disks _ _ => Disk
  | .snapshots _ => Snapshot
  | .resourcePolicies _ _ => ResourcePolicy
  | .networks _ => Network
  | .subnetworks _ _ => Subnetwork
  | .addresses _ _ => ReservedAddress
  | .firewalls _ => ListedRule

/-- Ask the catalog. -/
def perform (env : Environment) : (query : Query) → Work Session (List query.Item)
  | .regions project => listRegions env project
  | .zones project region => listZones env project region
  | .machineTypes project zone => listMachineTypes env project zone
  | .diskTypes project zone => listDiskTypes env project zone
  | .publicImages imageProject => listPublicImages env imageProject
  | .customImages project => listCustomImages env project
  | .imageFamilies imageProject => listImageFamilies env imageProject
  | .disks project zone => listDisks env project zone
  | .snapshots project => listSnapshots env project
  | .resourcePolicies project region => listResourcePolicies env project region
  | .networks project => listNetworks env project
  | .subnetworks project region => listSubnetworks env project region
  | .addresses project region => listAddresses env project region
  | .firewalls project => listFirewalls env project

/-- The topic that a query is answered from. -/
def topic : Query → Topic
  | .regions project => .whole .regions project
  | .zones project region => .zones project region
  | .machineTypes project zone => .part .machineTypes project zone
  | .diskTypes project zone => .part .diskTypes project zone
  | .publicImages imageProject => .whole .publicImages imageProject
  | .customImages project => .whole .images project
  | .imageFamilies imageProject => .whole .publicImages imageProject
  | .disks project zone => .part .disks project zone
  | .snapshots project => .whole .snapshots project
  | .resourcePolicies project region => .part .resourcePolicies project region
  | .networks project => .whole .networks project
  | .subnetworks project region => .part .subnetworks project region
  | .addresses project region => .part .addresses project region
  | .firewalls project => .whole .firewalls project

/-- The images that were not withdrawn. -/
def active (images : List Image) : List Image :=
  images.filter fun image => !image.isDeprecated

/-- What a query makes of the list that it is answered from. -/
def view : (query : Query) → List query.topic.drawer.Entry → List query.Item
  | .regions _ => id
  | .zones _ _ => id
  | .machineTypes _ _ => id
  | .diskTypes _ _ => id
  | .publicImages _ => active
  | .customImages _ => active
  | .imageFamilies _ => familiesOf ∘ active
  | .disks _ _ => id
  | .snapshots _ => id
  | .resourcePolicies _ _ => id
  | .networks _ => id
  | .subnetworks _ _ => id
  | .addresses _ _ => id
  | .firewalls _ => id

/-- Whether a query is looked up; a project that publishes no images is never asked for them. -/
def IsLookedUp : Query → Prop
  | .publicImages imageProject => isPublicImageProject imageProject = true
  | .imageFamilies imageProject => isPublicImageProject imageProject = true
  | _ => True

/-- The topics that queries read; zones are read off regions. -/
def Topics (asked : Query → Prop) (topic : Topic) : Prop :=
  ∃ query, asked query ∧
    (topic = query.topic ∨
      ∃ project region, query = .zones project region ∧ topic = .whole .regions project)

/-- Queries that are answered from one stored list are answered from one topic. -/
def Separate (asked : Query → Prop) : Prop :=
  ∀ query other, asked query → asked other → query.topic.drawer = other.topic.drawer →
    query.topic.key = other.topic.key → query.topic = other.topic

/-- A query that is looked up reads its topic and makes its own of the list. -/
theorem perform_eq_read (env : Environment) {query : Query} (lookedUp : query.IsLookedUp) :
    query.perform env = (do
      let items ← query.topic.read env
      return query.view items) := by
  have whole : ∀ {α : Type} (work : Work Session (List α)), work = (do
      let items ← work
      return id items) := fun work => (Work.bind_pure work).symm
  cases query with
  | publicImages imageProject =>
    have published : isPublicImageProject imageProject = true := lookedUp
    rw [perform, listPublicImages, if_pos published]
    rfl
  | imageFamilies imageProject =>
    have published : isPublicImageProject imageProject = true := lookedUp
    rw [perform, listImageFamilies, listPublicImages, if_pos published]
    exact Work.bind_assoc _ _ _
  | customImages project => rfl
  | machineTypes project zone => exact (listMachineTypes_eq_read env _ _).trans (whole _)
  | diskTypes project zone => exact (listDiskTypes_eq_read env _ _).trans (whole _)
  | disks project zone => exact (listDisks_eq_read env _ _).trans (whole _)
  | resourcePolicies project region => exact (listResourcePolicies_eq_read env _ _).trans (whole _)
  | subnetworks project region => exact (listSubnetworks_eq_read env _ _).trans (whole _)
  | addresses project region => exact (listAddresses_eq_read env _ _).trans (whole _)
  | regions | zones | snapshots | networks | firewalls => exact whole _

/-- A query that is not looked up is answered with nothing. -/
theorem perform_eq_nil (env : Environment) {query : Query} (idle : ¬ query.IsLookedUp) :
    query.perform env = return [] := by
  cases query with
  | publicImages imageProject =>
    have unpublished : ¬ isPublicImageProject imageProject = true := idle
    rw [perform, listPublicImages, if_neg unpublished]
    rfl
  | imageFamilies imageProject =>
    have unpublished : ¬ isPublicImageProject imageProject = true := idle
    rw [perform, listImageFamilies, listPublicImages, if_neg unpublished]
    rfl
  | _ => exact absurd trivial idle

end Query

/-- Queries that are separate have topics that are stored apart. -/
theorem Query.Separate.apart {asked : Query → Prop} (separate : Separate asked) :
    Apart (Topics asked) := by
  rintro topic other ⟨query, member, rfl | ⟨project, region, rfl, rfl⟩⟩
    ⟨otherQuery, otherMember, rfl | ⟨otherProject, otherRegion, rfl, rfl⟩⟩ sameDrawer sameKey
  · exact separate query otherQuery member otherMember sameDrawer sameKey
  · exact (Topic.whole_eq_of_key_eq sameDrawer.symm sameKey.symm).symm
  · exact Topic.whole_eq_of_key_eq sameDrawer sameKey
  · exact Topic.whole_eq_of_key_eq sameDrawer sameKey

/-- Queries for projects without a colon are separate, unless they ask for the zones of a
nameless region. -/
theorem Query.separate_of_plain {asked : Query → Prop}
    (plain : ∀ query, asked query → ':' ∉ query.topic.project.toList)
    (named : ∀ project, ¬ asked (.zones project (some ""))) : Separate asked := by
  have region_ne : ∀ {query : Query} {project : String}, asked query →
      query.topic ≠ .zones project (some "") := by
    intro query project member same
    cases query <;> cases same
    exact named project member
  intro query other member otherMember sameDrawer sameKey
  have text := plain query member
  have otherText := plain other otherMember
  rcases Topic.eq_or_located sameDrawer sameKey with
    same | ⟨kind, project, location, otherProject, otherLocation, first, second⟩ |
      ⟨project, region, otherProject, otherRegion, first, second⟩
  · exact same
  · rw [first] at text sameKey
    rw [second] at otherText sameKey
    obtain ⟨rfl, rfl⟩ := key_injective_of_plain text otherText sameKey
    exact first.trans second.symm
  · rw [first] at text sameKey
    rw [second] at otherText sameKey
    obtain ⟨rfl, regions⟩ := key_injective_of_plain text otherText sameKey
    rcases eq_or_nameless regions with rfl | ⟨rfl, rfl⟩ | ⟨rfl, rfl⟩
    · exact first.trans second.symm
    · exact absurd second (region_ne otherMember)
    · exact absurd first (region_ne member)

section Queries

variable {env : Environment} {answers : String → Answer} {asked : Query → Prop}

/-- The topic of a query is obtained as its content. -/
theorem Query.keeps_obtain (fixed : env.Fixed answers) (separate : Separate asked) {query : Query}
    (member : asked query) :
    Keeps env (Topics asked) (query.topic.obtain env) (query.topic.content env) := by
  refine Topic.keeps_obtain fixed separate.apart fun project region same => ?_
  cases query <;> cases same
  exact ⟨_, member, .inr ⟨project, region, rfl, rfl⟩⟩

/-- The topic of a query is read as its content. -/
theorem Query.keeps_read (fixed : env.Fixed answers) (separate : Separate asked) {query : Query}
    (member : asked query) :
    Keeps env (Topics asked) (query.topic.read env) (query.topic.content env) :=
  keeps_through separate.apart ⟨query, member, .inl rfl⟩ (keeps_obtain fixed separate member)

/-- A query ends in one way on every faithful catalog, and leaves it faithful. -/
theorem Query.keeps_perform (fixed : env.Fixed answers) (separate : Separate asked)
    {query : Query} (member : asked query) :
    ∃ outcome, Keeps env (Topics asked) (query.perform env) outcome := by
  by_cases lookedUp : query.IsLookedUp
  · rw [perform_eq_read env lookedUp]
    exact ⟨_, (keeps_read fixed separate member).map query.view⟩
  · rw [perform_eq_nil env lookedUp]
    exact ⟨_, keeps_pure []⟩

end Queries

/-- A query for a located topic yields as many items as reading the topic does. -/
theorem Query.perform_located {query : Query} (located : query.topic.IsLocated)
    (env : Environment) (session : Session) :
    (query.perform env session).1.length? = (query.topic.read env session).1.length? ∧
      (query.perform env session).2 = (query.topic.read env session).2 := by
  cases query with
  | zones project region => exact ⟨rfl, rfl⟩
  | machineTypes project zone =>
    rw [perform, listMachineTypes_eq_read]
    exact ⟨rfl, rfl⟩
  | diskTypes project zone =>
    rw [perform, listDiskTypes_eq_read]
    exact ⟨rfl, rfl⟩
  | disks project zone =>
    rw [perform, listDisks_eq_read]
    exact ⟨rfl, rfl⟩
  | resourcePolicies project region =>
    rw [perform, listResourcePolicies_eq_read]
    exact ⟨rfl, rfl⟩
  | subnetworks project region =>
    rw [perform, listSubnetworks_eq_read]
    exact ⟨rfl, rfl⟩
  | addresses project region =>
    rw [perform, listAddresses_eq_read]
    exact ⟨rfl, rfl⟩
  | regions | publicImages | customImages | imageFamilies | snapshots | networks | firewalls =>
    exact located.elim

end VmLaunch.Catalog
