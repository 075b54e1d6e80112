import Mathlib.Data.List.Basic
import VmLaunch.Launch.Instance
import VmLaunch.Proofs.Json.Members
import VmLaunch.Proofs.Json.Order
import VmLaunch.Proofs.Reference

/-!
# What a summary reports

Whatever the provider tells about a machine, exactly one summary reports it. `Reports` says part by
part what that summary holds: of the interfaces only the first counts, and of its access
configurations the first that names an address. The summary has the same members as an object and
as a map.
-/

namespace VmLaunch

/-- The text behind the last slash of a path, which is all of a path without a slash. -/
inductive LastSegment : String → String → Prop where
  | whole {path} (plain : '/' ∉ path.toList) : LastSegment path path
  | behind {parent name} (plain : '/' ∉ name.toList) : LastSegment (parent ++ "/" ++ name) name

/-- Every path has a last segment. -/
theorem exists_lastSegment (path : String) : ∃ name, LastSegment path name := by
  by_cases slash : '/' ∈ path.toList.reverse
  · obtain ⟨back, front, parts, plain⟩ := List.eq_append_cons_of_mem slash
    have whole : path = String.ofList front.reverse ++ "/" ++ String.ofList back.reverse := by
      rw [← String.toList_inj, List.reverse_eq_iff.mp parts]
      simp
    rw [whole]
    exact ⟨_, .behind (by simpa using plain)⟩
  · exact ⟨path, .whole (by simpa using slash)⟩

/-- The short name of a path is its last segment. -/
theorem shortName_eq_iff {path name : String} : shortName path = name ↔ LastSegment path name := by
  have known : ∀ {name}, LastSegment path name → shortName path = name := by
    intro name segment
    cases segment with
    | whole plain => exact shortName_of_not_mem plain
    | behind plain => exact shortName_append plain _
  refine ⟨?_, known⟩
  rintro rfl
  obtain ⟨name, segment⟩ := exists_lastSegment path
  rwa [known segment]

namespace InstanceSummary

/-- What a member holds: its text, and nothing when it is missing or no text. -/
inductive Holds (key : String) (value : Json) : String → Prop where
  | text {text} (found : value.get? key = some (.str text)) : Holds key value text
  | nothing (silent : ∀ text, value.get? key ≠ some (.str text)) : Holds key value ""

/-- What the id holds: its text, the text of its number, or nothing. -/
inductive Identifies (instance_ : Json) : String → Prop where
  | text {text} (found : instance_.get? "id" = some (.str text)) : Identifies instance_ text
  | number {n} (found : instance_.get? "id" = some (.num n)) :
      Identifies instance_ (Json.numberText n)
  | nothing (noText : ∀ text, instance_.get? "id" ≠ some (.str text))
      (noNumber : ∀ n, instance_.get? "id" ≠ some (.num n)) : Identifies instance_ ""

/-- The first interface of a machine. -/
inductive FirstInterface (instance_ : Json) : Json → Prop where
  | mk {interface others}
      (found : instance_.get? "networkInterfaces" = some (.arr (interface :: others))) :
      FirstInterface instance_ interface

/-- The internal address: what the first interface holds, and nothing without an interface. -/
inductive Internal (instance_ : Json) : String → Prop where
  | placed {interface ip} (first : FirstInterface instance_ interface)
      (holds : Holds "networkIP" interface ip) : Internal instance_ ip
  | unplaced (bare : ∀ interface, ¬ FirstInterface instance_ interface) : Internal instance_ ""

/-- An access configuration names an address. -/
def Names (access : Json) (ip : String) : Prop :=
  access.get? "natIP" = some (.str ip) ∧ ip ≠ ""

/-- The external address: the first that an access configuration of the first interface names. -/
inductive External (instance_ : Json) (ip : String) : Prop where
  | mk {interface access before after} (first : FirstInterface instance_ interface)
      (found : interface.get? "accessConfigs" = some (.arr (before ++ access :: after)))
      (names : Names access ip) (none : ∀ earlier ∈ before, ∀ other, ¬ Names earlier other)

/-- What a summary holds of a machine. -/
structure Reports (instance_ : Json) (fallbackZone : String) (summary : InstanceSummary) :
    Prop where
  id : Identifies instance_ summary.id
  selfLink : Holds "selfLink" instance_ summary.selfLink
  status : Holds "status" instance_ summary.status
  zone : ∃ path segment, Holds "zone" instance_ path ∧ LastSegment path segment ∧
    summary.zone = if segment = "" then fallbackZone else segment
  name : Holds "name" instance_ summary.name
  machineType : ∃ path, Holds "machineType" instance_ path ∧ LastSegment path summary.machineType
  internalIp : Internal instance_ summary.internalIp
  externalIp : ∀ ip, summary.externalIp = some ip ↔ External instance_ ip

section Parts

variable {value instance_ interface : Json} {key text ip : String}

/-- The text under a key is what a value holds there. -/
theorem textOf_eq_iff : textOf value key = text ↔ Holds key value text := by
  have known : ∀ {text}, Holds key value text → textOf value key = text := by
    rintro _ (found | silent)
    · rw [textOf, found]
      rfl
    · unfold textOf
      cases found : value.get? key with
      | none => rfl
      | some part =>
        cases part with
        | str text => exact absurd found (silent text)
        | null | bool | num | arr | obj => rfl
  refine ⟨?_, known⟩
  rintro rfl
  by_cases said : ∃ text, value.get? key = some (.str text)
  · obtain ⟨text, found⟩ := said
    rw [known (.text found)]
    exact .text found
  · have silent := not_exists.mp said
    rw [known (.nothing silent)]
    exact .nothing silent

/-- The id of an instance is what identifies it. -/
theorem idOf_eq_iff : idOf instance_ = text ↔ Identifies instance_ text := by
  unfold idOf
  constructor
  · rintro rfl
    split
    next text found => exact .text found
    next n found => exact .number found
    next noText noNumber => exact .nothing noText noNumber
  · rintro (found | found | ⟨noText, noNumber⟩)
    · rw [found]
    · rw [found]
    · split
      next text found => exact absurd found (noText text)
      next n found => exact absurd found (noNumber n)
      next => rfl

/-- The first interface in a list is the first of the instance. -/
theorem head?_itemsOf_eq_some_iff :
    (itemsOf instance_ "networkInterfaces").head? = some interface ↔
      FirstInterface instance_ interface := by
  unfold itemsOf
  constructor
  · intro first
    cases found : instance_.get? "networkInterfaces" with
    | none => simp [found] at first
    | some part =>
      cases part with
      | arr interfaces =>
        cases interfaces with
        | nil => simp [found, Json.items?] at first
        | cons head others =>
          obtain rfl : head = interface := by simpa [found, Json.items?] using first
          exact ⟨found⟩
      | null | bool | num | str | obj => simp [found, Json.items?] at first
  · rintro ⟨found⟩
    rw [found]
    rfl

/-- The internal address is that of the first interface. -/
theorem internal_iff :
    (((itemsOf instance_ "networkInterfaces").head?.map fun i => textOf i "networkIP").getD "") =
      text ↔ Internal instance_ text := by
  cases first : (itemsOf instance_ "networkInterfaces").head? with
  | none =>
    have bare : ∀ interface, ¬ FirstInterface instance_ interface := by
      intro interface found
      rw [head?_itemsOf_eq_some_iff.mpr found] at first
      cases first
    constructor
    · rintro rfl
      exact .unplaced bare
    · rintro (⟨found, -⟩ | -)
      · exact absurd found (bare _)
      · rfl
  | some interface =>
    have found := head?_itemsOf_eq_some_iff.mp first
    rw [Option.map_some, Option.getD_some, textOf_eq_iff]
    constructor
    · exact .placed found
    · rintro (⟨other, holds⟩ | bare)
      · rw [head?_itemsOf_eq_some_iff.mpr other] at first
        cases first
        exact holds
      · exact absurd found (bare interface)

/-- An access names an address when it has one that is not empty. -/
theorem textOf_natIP_iff {access : Json} :
    (textOf access "natIP" = ip ∧ ip ≠ "") ↔ Names access ip := by
  rw [textOf_eq_iff]
  constructor
  · rintro ⟨found | silent, filled⟩
    · exact ⟨found, filled⟩
    · exact absurd rfl filled
  · rintro ⟨found, filled⟩
    exact ⟨.text found, filled⟩

/-- The addresses of access configurations begin with the first that is named. -/
theorem natOf?_eq_some_iff :
    natOf? interface = some ip ↔ ∃ before access after,
      interface.get? "accessConfigs" = some (.arr (before ++ access :: after)) ∧
        Names access ip ∧ ∀ earlier ∈ before, ∀ other, ¬ Names earlier other := by
  have listed : ∀ {accesses}, itemsOf interface "accessConfigs" = accesses → accesses ≠ [] →
      interface.get? "accessConfigs" = some (.arr accesses) := by
    rintro _ rfl filled
    unfold itemsOf at filled ⊢
    cases found : interface.get? "accessConfigs" with
    | none => simp [found] at filled
    | some part =>
      cases part with
      | arr accesses => rfl
      | null | bool | num | str | obj => simp [found, Json.items?] at filled
  have unnamed : ∀ access, textOf access "natIP" = "" ↔ ∀ other, ¬ Names access other := by
    intro access
    simp only [← textOf_natIP_iff]
    exact ⟨fun vacant other ⟨same, filled⟩ => filled (same.symm.trans vacant),
      fun none => Classical.not_not.mp fun filled => none _ ⟨rfl, filled⟩⟩
  rw [natOf?, List.find?_map, Option.map_eq_some_iff]
  simp only [List.find?_eq_some_iff_append, Function.comp_apply, bne_iff_ne, Bool.not_eq_true',
    bne_eq_false_iff_eq, unnamed]
  constructor
  · rintro ⟨access, ⟨filled, before, after, parts, none⟩, rfl⟩
    exact ⟨before, access, after, listed parts (by simp), textOf_natIP_iff.mp ⟨rfl, filled⟩, none⟩
  · rintro ⟨before, access, after, found, names, none⟩
    obtain ⟨rfl, filled⟩ := textOf_natIP_iff.mpr names
    have parts : itemsOf interface "accessConfigs" = before ++ access :: after := by
      rw [itemsOf, found]
      rfl
    exact ⟨access, ⟨filled, before, after, parts, none⟩, rfl⟩

/-- The external address is the first that an access of the first interface names. -/
theorem external_iff :
    (itemsOf instance_ "networkInterfaces").head?.bind natOf? = some ip ↔ External instance_ ip := by
  simp only [Option.bind_eq_some_iff, head?_itemsOf_eq_some_iff, natOf?_eq_some_iff]
  constructor
  · rintro ⟨interface, first, before, access, after, found, names, none⟩
    exact ⟨first, found, names, none⟩
  · rintro ⟨first, found, names, none⟩
    exact ⟨_, first, _, _, _, found, names, none⟩

end Parts

/-- A projection reports the machine, and nothing else does. -/
theorem reports_iff {instance_ : Json} {fallbackZone : String} {summary : InstanceSummary} :
    Reports instance_ fallbackZone summary ↔ summary = project instance_ fallbackZone := by
  constructor
  · intro reports
    obtain ⟨path, segment, zoneText, zoneEnds, zone⟩ := reports.zone
    obtain ⟨typePath, typeText, typeEnds⟩ := reports.machineType
    obtain rfl := textOf_eq_iff.mpr zoneText
    obtain rfl := shortName_eq_iff.mpr zoneEnds
    obtain rfl := textOf_eq_iff.mpr typeText
    cases summary
    simp only [project, mk.injEq, beq_iff_eq]
    exact ⟨(idOf_eq_iff.mpr reports.id).symm, (textOf_eq_iff.mpr reports.selfLink).symm,
      (textOf_eq_iff.mpr reports.status).symm, zone, (textOf_eq_iff.mpr reports.name).symm,
      (shortName_eq_iff.mpr typeEnds).symm, (internal_iff.mpr reports.internalIp).symm,
      Option.ext fun ip => (reports.externalIp ip).trans external_iff.symm⟩
  · rintro rfl
    constructor
    case id => exact idOf_eq_iff.mp rfl
    case selfLink => exact textOf_eq_iff.mp rfl
    case status => exact textOf_eq_iff.mp rfl
    case zone =>
      exact ⟨_, _, textOf_eq_iff.mp rfl, shortName_eq_iff.mp rfl, by simp [project]⟩
    case name => exact textOf_eq_iff.mp rfl
    case machineType => exact ⟨_, textOf_eq_iff.mp rfl, shortName_eq_iff.mp rfl⟩
    case internalIp => exact internal_iff.mp rfl
    case externalIp => exact fun _ => external_iff

/-- What a summary shows under each key; an external address only when there is one. -/
inductive Shows (summary : InstanceSummary) : String → String → Prop where
  | id : Shows summary "id" summary.id
  | selfLink : Shows summary "selfLink" summary.selfLink
  | status : Shows summary "status" summary.status
  | zone : Shows summary "zone" summary.zone
  | name : Shows summary "name" summary.name
  | machineType : Shows summary "machineType" summary.machineType
  | internalIp : Shows summary "internalIp" summary.internalIp
  | externalIp {ip} (given : summary.externalIp = some ip) : Shows summary "externalIp" ip

section Encodings

variable (summary : InstanceSummary)

/-- A summary shows an external address when it has one. -/
theorem shows_externalIp_iff {ip : String} :
    Shows summary "externalIp" ip ↔ summary.externalIp = some ip := by
  refine ⟨fun shown => ?_, .externalIp⟩
  generalize key : "externalIp" = other at shown
  cases shown with
  | externalIp given => exact given
  | _ => exact absurd key (by decide)

/-- The entries of the map of a summary are what it shows. -/
theorem mem_toMap_iff {key text : String} :
    (key, text) ∈ summary.toMap ↔ Shows summary key text := by
  constructor
  · intro member
    unfold toMap at member
    rcases List.mem_append.mp member with external | other
    · split at external
      next ip given =>
        cases List.mem_singleton.mp external
        exact .externalIp given
      next => cases external
    · simp only [List.mem_cons, Prod.mk.injEq, List.not_mem_nil, or_false] at other
      rcases other with ⟨rfl, rfl⟩ | ⟨rfl, rfl⟩ | ⟨rfl, rfl⟩ | ⟨rfl, rfl⟩ | ⟨rfl, rfl⟩ | ⟨rfl, rfl⟩ |
        ⟨rfl, rfl⟩ <;> constructor
  · rintro (_ | _ | _ | _ | _ | _ | _ | given)
    case externalIp => simp [toMap, given]
    all_goals simp [toMap]

/-- A summary is written as an object with the members of its map, each of them once. -/
theorem encode_perm_toMap :
    ∃ members, summary.encode = .obj members ∧ (members.map Prod.fst).Nodup ∧
      members.Perm (summary.toMap.map fun (key, text) => (key, Json.str text)) := by
  obtain ⟨id, selfLink, status, zone, name, machineType, internalIp, externalIp⟩ := summary
  refine ⟨_, rfl, ?_⟩
  have fixed : ["id", "selfLink", "status", "zone", "name", "machineType", "internalIp"].Nodup ∧
      ["id", "selfLink", "status", "zone", "name", "machineType", "internalIp",
        "externalIp"].Nodup := by decide
  have sorts : ∀ {members sorted : List (String × Json)}, (members.map Prod.fst).Nodup →
      Json.sortMembers members = sorted → members.Perm sorted :=
    fun once same => same ▸ (Json.sortMembers_perm once).symm
  cases externalIp with
  | none => exact ⟨fixed.1, sorts fixed.1 rfl⟩
  | some ip => exact ⟨fixed.2, sorts fixed.2 rfl⟩

end Encodings

/-- Whatever is told about a machine, its projection is the one summary that reports it. Written as
an object it has the members of its map, each of them once, and among them an external address just
when there is one to show. -/
theorem project_reports (instance_ : Json) (fallbackZone : String) :
    (∀ summary, Reports instance_ fallbackZone summary ↔
      summary = project instance_ fallbackZone) ∧
    (∀ key text, (key, text) ∈ (project instance_ fallbackZone).toMap ↔
      Shows (project instance_ fallbackZone) key text) ∧
    ∃ members, (project instance_ fallbackZone).encode = .obj members ∧
      (members.map Prod.fst).Nodup ∧
      members.Perm ((project instance_ fallbackZone).toMap.map fun (key, text) =>
        (key, Json.str text)) ∧
      ("externalIp" ∈ members.map Prod.fst ↔
        (project instance_ fallbackZone).externalIp.getD "" ≠ "") := by
  obtain ⟨members, written, once, same⟩ := encode_perm_toMap (project instance_ fallbackZone)
  refine ⟨fun _ => reports_iff, fun _ _ => mem_toMap_iff _, members, written, once, same, ?_⟩
  have keys : "externalIp" ∈ members.map Prod.fst ↔
      ∃ ip, (project instance_ fallbackZone).externalIp = some ip := by
    rw [(same.map Prod.fst).mem_iff]
    simp [mem_toMap_iff, shows_externalIp_iff]
  rw [keys]
  constructor
  · rintro ⟨ip, given⟩
    obtain ⟨first, found, names, none⟩ := external_iff.mp given
    rw [given]
    exact names.2
  · intro filled
    cases given : (project instance_ fallbackZone).externalIp with
    | none => exact absurd (by rw [given]; rfl) filled
    | some ip => exact ⟨ip, rfl⟩

/-- An address of a later interface is not looked at, nor one before the first that is filled. -/
example :
    let interface := fun ips : List String =>
      Json.obj [("accessConfigs", .arr (ips.map fun ip => .obj [("natIP", .str ip)]))]
    (project (.obj [("networkInterfaces", .arr [interface [""], interface ["b"]])]) "z").externalIp =
        none ∧
      (project (.obj [("networkInterfaces", .arr [interface ["", "a"]])]) "z").externalIp =
        some "a" := by
  decide

end InstanceSummary

end VmLaunch
