import VmLaunch.Proofs.Catalog.Faithful
import VmLaunch.Proofs.Catalog.Key

/-!
# Providers that tell topics apart

A provider with a single list shows that two topics with one drawer and one key
differ in content, down to the number of items.
-/

namespace VmLaunch.Catalog

/-- A page with one item. -/
def pageOf (item : Json) : Json :=
  .obj [("items", .arr [item])]

/-- A provider that has one list, with a page as its body, and whose other lists are empty. -/
def loneProvider (path : String) (body : Json) : Environment where
  project := ""
  requestId _ := ""
  reply _ call :=
    match call with
    | .get target => { answer := .ok (if target = path then body else .null) }
    | .getUrl _ => { answer := .ok .null }
    | .post _ _ => { answer := .ok .null }
  pause := Pause.manual
  patience := 1

/-- The answers of a provider with one body are a function of the path. -/
theorem loneProvider_fixed (path : String) (body : Json) :
    (loneProvider path body).Fixed fun target => .ok (if target = path then body else .null) :=
  fun _ _ => rfl

section LoneProvider

variable {α : Type} {read : Json → Option α} {path list : String} {body : Json}

/-- The one list of a provider is what its page holds. -/
theorem fetchAll_loneProvider {items : List α}
    (decoded : Page.decode read body = some ⟨items, none⟩) (world : World) :
    (Page.fetchAll (loneProvider path body) read path world).1 = .ok items := by
  simp [Page.fetchAll, Page.walk, Page.path, loneProvider, Environment.callOr, Environment.call,
    bind, Work.bind, Pure.pure, Work.pure, Work.require, decoded, Page.continuation]

/-- Its other lists are empty. -/
theorem fetchAll_loneProvider_of_ne (apart : list ≠ path) (world : World) :
    (Page.fetchAll (loneProvider path body) read list world).1 = .ok [] := by
  have decoded : Page.decode read .null = some ⟨[], none⟩ := rfl
  simp [Page.fetchAll, Page.walk, Page.path, loneProvider, Environment.callOr, Environment.call,
    bind, Work.bind, Pure.pure, Work.pure, Work.require, decoded, Page.continuation, apart]

end LoneProvider

/-- The content of a part is walked as the items of its path. -/
theorem Part.content_of_fetchAll {env : Environment} {kind : Part} {project location : String}
    {items : List kind.drawer.Entry}
    (walked : (Page.fetchAll env kind.decode (kind.path project location) {}).1 = .ok items) :
    (Topic.part kind project location).content env = .ok (items.map (kind.finish location)) := by
  rcases run : Page.fetchAll env kind.decode (kind.path project location) {} with ⟨outcome, later⟩
  rw [run] at walked
  cases walked
  rw [Topic.content, fetch, Work.bind_of_ok run]
  rfl

/-- Every list of parts can hold an item. -/
theorem Part.exists_decode_pageOf (kind : Part) :
    ∃ item, Page.decode kind.decode (pageOf (.obj [])) = some ⟨[item], none⟩ := by
  cases kind <;> exact ⟨_, rfl⟩

private theorem Part.told_apart {kind : Part} {project location other otherLocation : String}
    (sameKey : Cache.key kind.name project location = Cache.key kind.name other otherLocation)
    (different : ¬ (project = other ∧ location = otherLocation)) :
    ∃ env answers items others, env.Fixed answers ∧
      (Topic.part kind project location).content env = .ok items ∧
      (Topic.part kind other otherLocation).content env = .ok others ∧
      items.length ≠ others.length := by
  have paths : kind.path other otherLocation ≠ kind.path project location :=
    fun same => different (eq_of_key_eq_of_path_eq sameKey same.symm)
  obtain ⟨item, decoded⟩ := kind.exists_decode_pageOf
  exact ⟨loneProvider (kind.path project location) (pageOf (.obj [])), _, _, _,
    loneProvider_fixed _ _, content_of_fetchAll (fetchAll_loneProvider decoded {}),
    content_of_fetchAll (fetchAll_loneProvider_of_ne paths {}), Nat.one_ne_zero⟩

/-- A region with one zone. -/
def loneRegion (name : String) : Region where
  name := name
  selfLink := ""
  status := ""
  description := ""
  zones := ["a"]

theorem loneRegion_decode (name : String) :
    Page.decode Region.decode (pageOf (loneRegion name).encode) =
      some ⟨[loneRegion name], none⟩ :=
  rfl

/-- The zones that a provider with one region has to say. -/
private theorem zones_content {project : String} (name : String) (region : Option String) :
    (Topic.zones project region).content
        (loneProvider (Whole.regions.path project) (pageOf (loneRegion name).encode)) =
      .ok (zonesOf region [loneRegion name]) := by
  have walked : (Whole.regions.fetch (loneProvider (Whole.regions.path project)
      (pageOf (loneRegion name).encode)) project {}).1 = .ok [loneRegion name] :=
    fetchAll_loneProvider (loneRegion_decode name) {}
  rw [Topic.content, walked]
  rfl

private theorem zones_content_of_ne {project other : String} (name : String)
    (region : Option String) (apart : project ≠ other) :
    (Topic.zones other region).content
        (loneProvider (Whole.regions.path project) (pageOf (loneRegion name).encode)) =
      .ok [] := by
  have paths : Whole.regions.path other ≠ Whole.regions.path project := by
    intro same
    have texts := congrArg String.toList same
    simp [Whole.path] at texts
    exact apart (String.toList_inj.mp texts.symm)
  have walked : (Whole.regions.fetch (loneProvider (Whole.regions.path project)
      (pageOf (loneRegion name).encode)) other {}).1 = .ok [] :=
    fetchAll_loneProvider_of_ne paths {}
  rw [Topic.content, walked]
  rfl

private theorem zones_told_apart {project other : String} {region otherRegion : Option String}
    (sameKey : (Topic.zones project region).key = (Topic.zones other otherRegion).key)
    (different : Topic.zones project region ≠ .zones other otherRegion) :
    ∃ env answers items others, env.Fixed answers ∧
      (Topic.zones project region).content env = .ok items ∧
      (Topic.zones other otherRegion).content env = .ok others ∧
      items.length ≠ others.length := by
  by_cases sameProject : project = other
  · subst sameProject
    refine ⟨_, _, _, _, loneProvider_fixed _ _, zones_content "a" region,
      zones_content "a" otherRegion, ?_⟩
    have lengths : (zonesOf none [loneRegion "a"]).length ≠
        (zonesOf (some "") [loneRegion "a"]).length := by decide
    rcases eq_or_nameless (location_eq_of_key_eq sameKey) with rfl | ⟨rfl, rfl⟩ | ⟨rfl, rfl⟩
    · exact absurd rfl different
    · exact lengths
    · exact lengths.symm
  · refine ⟨_, _, _, _, loneProvider_fixed _ _, zones_content (region.getD "") region,
      zones_content_of_ne _ otherRegion sameProject, ?_⟩
    cases region <;> simp [zonesOf, loneRegion, Region.toZones, Region.zoneNames]

/-- Two topics that share a drawer and a key have contents of different lengths for some
provider. -/
theorem Topic.told_apart {topic other : Topic} (sameDrawer : topic.drawer = other.drawer)
    (sameKey : topic.key = other.key) (different : topic ≠ other) :
    ∃ env answers items others, env.Fixed answers ∧ topic.content env = .ok items ∧
      other.content env = .ok others ∧ items.length ≠ others.length := by
  rcases eq_or_located sameDrawer sameKey with
    same | ⟨kind, project, location, otherProject, otherLocation, rfl, rfl⟩ |
      ⟨project, region, otherProject, otherRegion, rfl, rfl⟩
  · exact absurd same different
  · exact Part.told_apart sameKey fun same => different (by rw [same.1, same.2])
  · exact zones_told_apart sameKey different

end VmLaunch.Catalog
