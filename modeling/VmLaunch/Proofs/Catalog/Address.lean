import VmLaunch.Proofs.Inquiry
import VmLaunch.Proofs.Reference
import VmLaunch.Proofs.Url.Literal

/-!
# Addresses by path

A reserved address may be given as a path, alone or at the end of a link. What is looked up then
is the name at the end of the path, in the project and the region of the lookup: the path is asked
for as it stands only if it lies there.
-/

namespace VmLaunch.Lookup

/-- The path of a reserved address. -/
def addressPath (project region name : String) : String :=
  regionParent project region "addresses" ++ "/" ++ name

/-- A lookup asks for one resource and nothing else, and gives the address that the provider has
for it. -/
structure Fetches (env : Environment) (path : String) (lookup : Work World String)
    (world : World) : Prop where
  asks : lookup.made world = [env.exchange world (.get path)]
  gives : ∀ address, (lookup world).1 = .ok address ↔
    ∃ body reserved, (env.reply world (.get path)).answer = .ok body ∧
      ReservedAddress.decode body = some reserved ∧ reserved.address = address ∧ address ≠ ""

/-- A lookup asks for no more than one resource. -/
theorem Fetches.path_unique {env : Environment} {path other : String} {lookup : Work World String}
    {world : World} (fetches : Fetches env path lookup world)
    (also : Fetches env other lookup world) : path = other := by
  have exchanges := fetches.asks.symm.trans also.asks
  have calls : Call.get path = .get other := congrArg Exchange.call (List.cons.inj exchanges).1
  exact Call.get.inj calls

/-- The path of an address names its project, its region and itself. -/
theorem toList_addressPath (project region name : String) :
    (addressPath project region name).toList =
      "projects/".toList ++ (project.toList ++ "/regions".toList ++ '/' :: region.toList ++
        ("/addresses/".toList ++ name.toList)) := by
  simp [addressPath, regionParent]

/-- Paths of addresses tell projects and regions apart, whichever characters the project and the
region of a scope have. -/
theorem addressPath_inj {project region owner place name : String} (owned : '/' ∉ owner.toList)
    (placed : '/' ∉ place.toList)
    (same : addressPath project region name = addressPath owner place name) :
    owner = project ∧ place = region := by
  have texts := congrArg String.toList same
  rw [toList_addressPath, toList_addressPath] at texts
  have scopes := List.append_cancel_right (List.append_cancel_left texts)
  have plain : '/' ∉ region.toList := by
    -- Both sides have as many separators, and there is none in the owner or its place.
    have counts := congrArg (List.count '/') scopes
    simp only [List.count_append, List.count_cons, List.count_eq_zero.mpr owned,
      List.count_eq_zero.mpr placed] at counts
    exact List.count_eq_zero.mp (by omega)
  have cut := congrArg (Text.cutLastChars? '/') scopes
  rw [Text.cutLastChars?_append plain, Text.cutLastChars?_append placed] at cut
  obtain ⟨fronts, regions⟩ := Prod.mk.inj (Option.some.inj cut)
  exact ⟨String.toList_inj.mp (List.append_cancel_right fronts).symm,
    String.toList_inj.mp regions.symm⟩

/-- What asks for one path fetches it. -/
theorem fetches_ask (env : Environment) (path reference : String) (what : Malformed)
    (world : World) :
    Fetches env path
      (Work.ask env (.get path) (judge .address reference what .noIp fun body =>
        (ReservedAddress.decode body).map ReservedAddress.address)) world where
  asks := by
    refine Work.made_eq ?_
    rw [Work.ask_apply]
    rfl
  gives := by
    intro address
    rw [Work.ask_apply]
    constructor
    · intro found
      obtain ⟨body, answered, held, filled⟩ := judge_eq_ok_iff.mp (Outcome.ofExcept_eq_ok found)
      obtain ⟨reserved, decoded, same⟩ := Option.map_eq_some_iff.mp held
      exact ⟨body, reserved, answered, decoded, same, filled⟩
    · rintro ⟨body, reserved, answered, decoded, same, filled⟩
      have held : (ReservedAddress.decode body).map ReservedAddress.address = some address := by
        rw [decoded, ← same]
        rfl
      rw [judge_eq_ok_iff.mpr ⟨body, answered, held, filled⟩]
      rfl

/-- Text with a separator is looked up by what stands behind the last one. -/
theorem address_fetches {text name : String} (separated : '/' ∈ text.toList)
    (named : shortName (Text.trim text) = name) (filled : name ≠ "") (env : Environment)
    (project region : String) (world : World) :
    Fetches env (addressPath project region name) (address env project region text) world := by
  have path : ¬ Address.isLiteral (Text.trim text) :=
    Address.not_isLiteral_of_mem ((mem_trim_slash_iff text).mpr separated)
  rw [address_eq_perform, addressInquiry, if_neg path, named, if_neg filled]
  exact fetches_ask env _ _ _ world

/-- An address given by its path, alone or at the end of a link, is looked up by its name in the
scope of the lookup. The named resource is looked up exactly when it lies in that scope. -/
theorem address_fetches_iff {owner place name : String} (owned : '/' ∉ owner.toList)
    (placed : '/' ∉ place.toList) (plain : '/' ∉ name.toList) (tidy : Text.Tidy name)
    (env : Environment) (project region front : String) (world : World) :
    let lookup := address env project region (front ++ addressPath owner place name)
    Fetches env (addressPath project region name) lookup world ∧
      (Fetches env (addressPath owner place name) lookup world ↔
        owner = project ∧ place = region) := by
  intro lookup
  have joined : front ++ addressPath owner place name =
      front ++ regionParent owner place "addresses" ++ "/" ++ name := by
    simp only [addressPath, String.append_assoc]
  have fetches : Fetches env (addressPath project region name) lookup world := by
    refine address_fetches ?_ ?_ tidy.filled env project region world
    · simp [joined]
    · rw [joined]
      exact shortName_trim_append tidy plain _
  refine ⟨fetches, fun own => ?_, ?_⟩
  · exact addressPath_inj owned placed (fetches.path_unique own)
  · rintro ⟨rfl, rfl⟩
    exact fetches

/-- The addresses of one name in two projects. -/
def twinAnswer : Call → Answer
  | .get path =>
    if path = addressPath "home" "europe-west1" "web" then
      .ok (.obj [("address", .str "203.0.113.1")])
    else if path = addressPath "other" "us-east1" "web" then
      .ok (.obj [("address", .str "203.0.113.2")])
    else .error (.of "API request failed: 404 Not Found")
  | .getUrl _ => .error (.of "API request failed: 404 Not Found")
  | .post _ _ => .error (.of "API request failed: 404 Not Found")

/-- A provider with addresses of one name in two projects. -/
def twinProvider : Environment where
  project := "home"
  requestId _ := "id"
  reply _ call := { answer := twinAnswer call }
  pause := Pause.manual
  patience := 1

/-- A link to an address of another project gives the address of the same name at home. -/
theorem address_fetches_iff_twinProvider :
    let link := "https://www.googleapis.com/compute/v1/" ++ addressPath "other" "us-east1" "web"
    let own := addressPath "other" "us-east1" "web"
    (address twinProvider "home" "europe-west1" link {}).1 = .ok "203.0.113.1" ∧
      ¬ Fetches twinProvider own (address twinProvider "home" "europe-west1" link) {} ∧
      (address twinProvider "other" "us-east1" link {}).1 = .ok "203.0.113.2" ∧
      Fetches twinProvider own (address twinProvider "other" "us-east1" link) {} := by
  have owned : '/' ∉ "other".toList := by decide
  have placed : '/' ∉ "us-east1".toList := by decide
  have plain : '/' ∉ "web".toList := by decide
  have tidy : Text.Tidy "web" := by decide +kernel
  intro link own
  obtain ⟨home, away⟩ := address_fetches_iff owned placed plain tidy twinProvider "home"
    "europe-west1" "https://www.googleapis.com/compute/v1/" {}
  obtain ⟨-, there⟩ := address_fetches_iff owned placed plain tidy twinProvider "other"
    "us-east1" "https://www.googleapis.com/compute/v1/" {}
  have fetches := there.mpr ⟨rfl, rfl⟩
  have first : twinAnswer (.get (addressPath "home" "europe-west1" "web")) =
      .ok (.obj [("address", .str "203.0.113.1")]) := by
    rw [twinAnswer, if_pos rfl]
  have second : twinAnswer (.get (addressPath "other" "us-east1" "web")) =
      .ok (.obj [("address", .str "203.0.113.2")]) := by
    rw [twinAnswer, if_neg (by decide +kernel), if_pos rfl]
  refine ⟨?_, fun elsewhere => ?_, ?_, fetches⟩
  · exact (home.gives _).mpr ⟨_, _, first, rfl, rfl, by decide⟩
  · exact absurd (away.mp elsewhere).1 (by decide)
  · exact (fetches.gives _).mpr ⟨_, _, second, rfl, rfl, by decide⟩

/-- A path of an address may be looked up in another project than its own. -/
theorem not_always_fetches :
    ¬ ∀ (env : Environment) (world : World) (project region owner place name front : String),
        '/' ∉ owner.toList → '/' ∉ place.toList → '/' ∉ name.toList → Text.Tidy name →
          Fetches env (addressPath owner place name)
            (address env project region (front ++ addressPath owner place name)) world := by
  intro always
  have owned : '/' ∉ "other".toList := by decide
  have placed : '/' ∉ "us-east1".toList := by decide
  have own := always twinProvider {} "home" "europe-west1" "other" "us-east1" "web" "" owned
    placed (by decide) (by decide +kernel)
  have home : Fetches twinProvider (addressPath "home" "europe-west1" "web")
      (address twinProvider "home" "europe-west1"
        ("" ++ addressPath "other" "us-east1" "web")) {} :=
    address_fetches (by decide +kernel) (by decide +kernel) (by decide) _ _ _ _
  have path := home.path_unique own
  exact absurd (addressPath_inj owned placed path).1 (by decide)

end VmLaunch.Lookup
