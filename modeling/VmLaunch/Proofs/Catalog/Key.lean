import VmLaunch.Proofs.Catalog.Topic

/-!
# Keys

What the key of a list tells about its project and location. A key does not escape
the colons that it joins its parts with, and a location that is empty leaves no mark.
-/

namespace VmLaunch.Catalog

/-- What a key holds after the project. -/
private def keyTail (location : String) : List Char :=
  if location = "" then [] else ':' :: location.toList

private theorem toList_key (kind project location : String) :
    (Cache.key kind project location).toList =
      kind.toList ++ ':' :: (project.toList ++ keyTail location) := by
  by_cases vacant : location = "" <;> simp [Cache.key, keyTail, vacant]

private theorem keyTail_injective {location other : String}
    (same : keyTail location = keyTail other) : location = other := by
  unfold keyTail at same
  by_cases vacant : location = "" <;> by_cases otherVacant : other = "" <;>
    simp_all [String.toList_inj]

private theorem eq_colon_of_keyTail {location : String} {letter : Char} {rest : List Char}
    (begins : keyTail location = letter :: rest) : letter = ':' := by
  unfold keyTail at begins
  by_cases vacant : location = ""
  · simp [vacant] at begins
  · rw [if_neg vacant] at begins
    exact (List.cons.inj begins).1.symm

/-- Projects of one key are equal, or one of them goes on with a colon. -/
private theorem eq_or_colon_of_keyTail {front other : List Char} {location otherLocation : String}
    (keys : front ++ keyTail location = other ++ keyTail otherLocation) :
    front = other ∨ (∃ more, other = front ++ ':' :: more) ∨
      ∃ more, front = other ++ ':' :: more := by
  rcases List.append_eq_append_iff.mp keys with ⟨more, rfl, ends⟩ | ⟨more, rfl, ends⟩
  · cases more with
    | nil => exact .inl (by simp)
    | cons letter more =>
      cases eq_colon_of_keyTail ends
      exact .inr (.inl ⟨more, rfl⟩)
  · cases more with
    | nil => exact .inl (by simp)
    | cons letter more =>
      cases eq_colon_of_keyTail ends
      exact .inr (.inr ⟨more, rfl⟩)

/-- A text that goes on with a slash and also with the rest of a key ends there. -/
private theorem eq_of_append_slash {front other rest otherRest : List Char}
    {location otherLocation : String}
    (keys : front ++ keyTail location = other ++ keyTail otherLocation)
    (paths : front ++ '/' :: rest = other ++ '/' :: otherRest) : front = other := by
  rcases eq_or_colon_of_keyTail keys with same | ⟨more, rfl⟩ | ⟨more, rfl⟩
  · exact same
  · rw [List.append_assoc] at paths
    cases List.append_cancel_left paths
  · rw [List.append_assoc] at paths
    cases List.append_cancel_left paths

private theorem keyTails_of_key_eq {kind project location other otherLocation : String}
    (same : Cache.key kind project location = Cache.key kind other otherLocation) :
    project.toList ++ keyTail location = other.toList ++ keyTail otherLocation := by
  have keys := congrArg String.toList same
  rw [toList_key, toList_key] at keys
  exact (List.cons.inj (List.append_cancel_left keys)).2

private theorem exists_toList_zoneParent (project zone collection : String) :
    ∃ rest, (zoneParent project zone collection).toList =
      "projects/".toList ++ (project.toList ++ '/' :: rest) :=
  ⟨"zones/".toList ++ (zone.toList ++ '/' :: collection.toList), by simp [zoneParent]⟩

private theorem exists_toList_regionParent (project region collection : String) :
    ∃ rest, (regionParent project region collection).toList =
      "projects/".toList ++ (project.toList ++ '/' :: rest) :=
  ⟨"regions/".toList ++ (region.toList ++ '/' :: collection.toList), by simp [regionParent]⟩

private theorem Part.exists_toList_path (kind : Part) (project location : String) :
    ∃ rest, (kind.path project location).toList =
      "projects/".toList ++ (project.toList ++ '/' :: rest) := by
  cases kind with
  | machineTypes => exact exists_toList_zoneParent _ _ _
  | diskTypes => exact exists_toList_zoneParent _ _ _
  | disks => exact exists_toList_zoneParent _ _ _
  | resourcePolicies => exact exists_toList_regionParent _ _ _
  | subnetworks => exact exists_toList_regionParent _ _ _
  | addresses => exact exists_toList_regionParent _ _ _

/-- The keys of one project tell its locations apart. -/
theorem location_eq_of_key_eq {kind project location other : String}
    (same : Cache.key kind project location = Cache.key kind project other) : location = other :=
  keyTail_injective (List.append_cancel_left (keyTails_of_key_eq same))

/-- Lists of parts of projects that share a key and a path are one list. -/
theorem Part.eq_of_key_eq_of_path_eq {kind : Part} {project location other otherLocation : String}
    (sameKey : Cache.key kind.name project location = Cache.key kind.name other otherLocation)
    (samePath : kind.path project location = kind.path other otherLocation) :
    project = other ∧ location = otherLocation := by
  obtain ⟨rest, path⟩ := kind.exists_toList_path project location
  obtain ⟨otherRest, otherPath⟩ := kind.exists_toList_path other otherLocation
  rw [samePath, otherPath] at path
  have same : project = other := String.toList_inj.mp
    (eq_of_append_slash (keyTails_of_key_eq sameKey) (List.append_cancel_left path).symm)
  subst same
  exact ⟨rfl, location_eq_of_key_eq sameKey⟩

/-- A key whose project has no colon is read in one way. -/
theorem key_injective_of_plain {kind project other location otherLocation : String}
    (plain : ':' ∉ project.toList) (otherPlain : ':' ∉ other.toList)
    (same : Cache.key kind project location = Cache.key kind other otherLocation) :
    project = other ∧ location = otherLocation := by
  have projects : project = other := by
    rcases eq_or_colon_of_keyTail (keyTails_of_key_eq same) with
      equal | ⟨more, longer⟩ | ⟨more, longer⟩
    · exact String.toList_inj.mp equal
    · exact absurd (by simp [longer]) otherPlain
    · exact absurd (by simp [longer]) plain
  subst projects
  exact ⟨rfl, location_eq_of_key_eq same⟩

/-- No region and a nameless one are the only regions that keys confuse. -/
theorem eq_or_nameless {region other : Option String} (same : region.getD "" = other.getD "") :
    region = other ∨ (region = none ∧ other = some "") ∨ (region = some "" ∧ other = none) := by
  cases region with
  | none =>
    cases other with
    | none => exact .inl rfl
    | some name => exact .inr (.inl ⟨rfl, congrArg some same.symm⟩)
  | some name =>
    cases other with
    | none => exact .inr (.inr ⟨congrArg some same, rfl⟩)
    | some otherName => exact .inl (congrArg some same)

/-- Lists of whole projects share their keys with nothing. -/
theorem Topic.whole_eq_of_key_eq {kind : Whole} {project : String} {other : Topic}
    (sameDrawer : (whole kind project).drawer = other.drawer)
    (sameKey : (whole kind project).key = other.key) : whole kind project = other := by
  cases other with
  | whole otherKind otherProject =>
    cases kind <;> cases otherKind <;>
      simp_all [drawer, Whole.drawer, key, Cache.key, Whole.name, ← String.toList_inj,
        String.toList_append]
  | part otherKind otherProject location => cases kind <;> cases otherKind <;> cases sameDrawer
  | zones otherProject region => cases kind <;> cases sameDrawer

/-- The firewall rules of different projects are stored under different keys. -/
theorem firewallsKey_injective {project other : String}
    (same : firewallsKey project = firewallsKey other) : project = other := by
  have one : Topic.whole .firewalls project = .whole .firewalls other :=
    Topic.whole_eq_of_key_eq rfl same
  exact (Topic.whole.inj one).2

/-- Lists of different kinds lie in different drawers. -/
theorem Part.drawer_injective {kind other : Part} (same : kind.drawer = other.drawer) :
    kind = other := by
  cases kind <;> cases other <;> trivial

/-- Different topics that share a drawer and a key are parts of one kind, or zones. -/
theorem Topic.eq_or_located {topic other : Topic} (sameDrawer : topic.drawer = other.drawer)
    (sameKey : topic.key = other.key) :
    topic = other ∨
      (∃ kind project location otherProject otherLocation,
        topic = .part kind project location ∧ other = .part kind otherProject otherLocation) ∨
      ∃ project region otherProject otherRegion,
        topic = .zones project region ∧ other = .zones otherProject otherRegion := by
  cases topic with
  | whole kind project => exact .inl (whole_eq_of_key_eq sameDrawer sameKey)
  | part kind project location =>
    cases other with
    | whole otherKind otherProject =>
      exact .inl (whole_eq_of_key_eq sameDrawer.symm sameKey.symm).symm
    | part otherKind otherProject otherLocation =>
      cases Part.drawer_injective sameDrawer
      exact .inr (.inl ⟨_, _, _, _, _, rfl, rfl⟩)
    | zones otherProject region => cases kind <;> cases sameDrawer
  | zones project region =>
    cases other with
    | whole otherKind otherProject =>
      exact .inl (whole_eq_of_key_eq sameDrawer.symm sameKey.symm).symm
    | part otherKind otherProject location => cases otherKind <;> cases sameDrawer
    | zones otherProject otherRegion => exact .inr (.inr ⟨_, _, _, _, rfl, rfl⟩)

end VmLaunch.Catalog
