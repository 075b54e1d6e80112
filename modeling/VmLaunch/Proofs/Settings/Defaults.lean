import VmLaunch.Proofs.Host.Files
import VmLaunch.Proofs.ProjectLanguage
import VmLaunch.Settings.Defaults

/-!
# The project that the host names

A variable counts when its value is a project id and is passed over when it is not. Where no
variable counts, the first value that the properties files hold decides, and if that is no project
id the host names none. Which files these are is told by a file, but whatever this says they lie
directly in one directory, and no other file has a say.
-/

namespace VmLaunch.Host

variable {host other : Host} {directory path name key value project : String}
  {answer : Option String}

/-- A text with the form of a project id. -/
def IsProject (text : String) : Prop :=
  text.toList ∈ ProjectId.pattern.matches'

section Variables

/-- A project is the value of a variable, and no variable before that has a project id for its
value. -/
def NamedByVariable (host : Host) (project : String) : Prop :=
  ∃ front source back, ["CLOUDSDK_CORE_PROJECT", "GOOGLE_CLOUD_PROJECT", "GCLOUD_PROJECT"] =
      front ++ source :: back ∧
    host.valueOf? source = some project ∧ IsProject project ∧
      ∀ earlier ∈ front, ∀ value ∈ host.valueOf? earlier, ¬ IsProject value

/-- The search through the variables finds the project that they name. -/
theorem find?_projectVariables_eq_some_iff :
    (projectVariables.filterMap host.valueOf?).find? isProjectId = some project ↔
      host.NamedByVariable project := by
  simp only [NamedByVariable, IsProject, ← isProjectId_iff_mem_pattern, List.find?_filterMap,
    Option.bind_eq_some_iff, List.find?_eq_some_iff_append]
  constructor
  · rintro ⟨source, ⟨valid, front, back, split, invalid⟩, named⟩
    rw [named, Option.any_some] at valid
    refine ⟨front, source, back, split, named, valid, fun earlier member value kept => ?_⟩
    simpa [Option.mem_def.mp kept] using invalid earlier member
  · rintro ⟨front, source, back, split, named, valid, invalid⟩
    refine ⟨source, ⟨by rwa [named, Option.any_some], front, back, split, ?_⟩, named⟩
    intro earlier member
    cases kept : host.valueOf? earlier with
    | none => rfl
    | some value => simpa using invalid earlier member value kept

/-- The search through the variables finds nothing when they name no project. -/
theorem find?_projectVariables_eq_none_iff :
    (projectVariables.filterMap host.valueOf?).find? isProjectId = none ↔
      ∀ project, ¬ host.NamedByVariable project := by
  simp only [Option.eq_none_iff_forall_ne_some, ne_eq, find?_projectVariables_eq_some_iff]

end Variables

section Files

/-- The file at a path tells the value of a property. -/
def Tells (host : Host) (name key path value : String) : Prop :=
  ∃ text, host.read? path = some text ∧ Properties.value? text name key = some value

/-- The properties of the active configuration lie in the directory of configurations, in a file
whose name holds what the file `active_config` says. What could lead elsewhere names none. -/
def IsActive (host : Host) (directory path : String) : Prop :=
  ∃ text, host.read? (within directory "active_config") = some text ∧
    (∀ c ∈ (Text.trim text).toList, c.isAlphanum = true ∨ c = '-' ∨ c = '_') ∧
      path = within (within directory "configurations") ("config_" ++ Text.trim text)

/-- The value of a property is that of the active configuration and, only where this has none, that
of the properties which all configurations share. -/
inductive FirstTold (host : Host) (name key : String) : String → Prop where
  | active {directory path value : String} (known : host.gcloudDirectory? = some directory)
      (active : host.IsActive directory path) (told : host.Tells name key path value) :
      FirstTold host name key value
  | shared {directory value : String} (known : host.gcloudDirectory? = some directory)
      (silent : ∀ path, host.IsActive directory path → ∀ value, ¬ host.Tells name key path value)
      (told : host.Tells name key (within directory "properties") value) :
      FirstTold host name key value

/-- A configuration is named by letters, digits, hyphens and underscores. -/
theorem isConfigurationName_iff : isConfigurationName name = true ↔
    ∀ c ∈ name.toList, c.isAlphanum = true ∨ c = '-' ∨ c = '_' := by
  simp [isConfigurationName, or_assoc]

/-- There is one active configuration or none. -/
theorem activeProperties_cases (host : Host) (directory : String) :
    (host.activeProperties directory = [] ∧ ∀ path, ¬ host.IsActive directory path) ∨
      ∃ path, host.activeProperties directory = [path] ∧
        ∀ other, host.IsActive directory other ↔ other = path := by
  unfold activeProperties IsActive
  cases host.read? (within directory "active_config") with
  | none => simp
  | some text =>
    simp only [Option.map_some, Option.some.injEq, exists_eq_left', ← isConfigurationName_iff]
    by_cases plain : isConfigurationName (Text.trim text) = true <;> simp [plain]

/-- What the file at a path tells of a property. -/
def told? (host : Host) (name key path : String) : Option String :=
  (host.read? path).bind fun text => Properties.value? text name key

/-- What is told of a property is what its file tells. -/
theorem told?_eq_some_iff : host.told? name key path = some value ↔ host.Tells name key path value :=
  Option.bind_eq_some_iff

/-- A property is what the first properties file tells that tells anything. -/
theorem property?_eq (host : Host) (name key : String) :
    host.property? name key = host.gcloudDirectory?.bind fun directory =>
      (host.propertyFiles directory).findSome? (host.told? name key) := by
  have read (paths : List String) :
      (paths.filterMap host.read?).findSome? (fun text => Properties.value? text name key) =
        paths.findSome? (host.told? name key) := by
    induction paths with
    | nil => rfl
    | cons path rest inductionHypothesis =>
      rw [List.findSome?_cons, ← inductionHypothesis, told?]
      cases content : host.read? path with
      | none => rw [List.filterMap_cons_none content, Option.bind_none]
      | some text => rw [List.filterMap_cons_some content, List.findSome?_cons, Option.bind_some]
  unfold property?
  cases host.gcloudDirectory? with
  | none => rfl
  | some directory => exact read _

/-- The active configuration tells a property, or where it is silent the shared properties do. -/
theorem findSome?_propertyFiles_eq_some_iff :
    (host.propertyFiles directory).findSome? (host.told? name key) = some value ↔
      (∃ path, host.IsActive directory path ∧ host.Tells name key path value) ∨
        (∀ path, host.IsActive directory path → ∀ value, ¬ host.Tells name key path value) ∧
          host.Tells name key (within directory "properties") value := by
  rw [propertyFiles, List.findSome?_append, Option.or_eq_some_iff, List.findSome?_singleton,
    told?_eq_some_iff]
  rcases activeProperties_cases host directory with ⟨files, inactive⟩ | ⟨active, files, same⟩
  · simp [files, inactive]
  · simp only [files, List.findSome?_singleton, same, exists_eq_left, forall_eq, told?_eq_some_iff,
      Option.eq_none_iff_forall_ne_some, ne_eq]

/-- A property has the value that is told first. -/
theorem property?_eq_some_iff :
    host.property? name key = some value ↔ host.FirstTold name key value := by
  simp only [property?_eq, Option.bind_eq_some_iff, findSome?_propertyFiles_eq_some_iff]
  constructor
  · rintro ⟨directory, known, ⟨path, active, told⟩ | ⟨silent, told⟩⟩
    · exact .active known active told
    · exact .shared known silent told
  · rintro (⟨known, active, told⟩ | ⟨known, silent, told⟩)
    · exact ⟨_, known, .inl ⟨_, active, told⟩⟩
    · exact ⟨_, known, .inr ⟨silent, told⟩⟩

end Files

section Confinement

/-- A path to a file that can only lie directly in a directory. -/
def LiesIn (host : Host) (directory path : String) : Prop :=
  ∃ leaf, IsOwnName leaf ∧ path = within directory leaf ∧
    ∀ place, host.filePlace path = .ok place →
      ∃ parent, host.Leads directory parent ∧ place = parent ++ [leaf]

/-- A proper name taken from a directory leads to something that lies in it. -/
theorem IsOwnName.liesIn {leaf : String} (single : IsOwnName leaf) (host : Host)
    (directory : String) : host.LiesIn directory (within directory leaf) := by
  refine ⟨leaf, single, rfl, fun place found => ?_⟩
  obtain ⟨parent, above, -, -, rfl⟩ := (leads_within_iff single).mp (leads_of_filePlace found)
  exact ⟨parent, above, rfl⟩

/-- What names a configuration holds no separator, and the beginning of the name of its file makes
it a proper name. -/
theorem isOwnName_configuration (plain : isConfigurationName name = true) :
    IsOwnName ("config_" ++ name) := by
  constructor
  · rw [String.toList_append]
    intro member
    rcases List.mem_append.mp member with fixed | free
    · exact absurd fixed (by decide)
    · exact absurd (List.all_eq_true.mp plain '/' free) (by decide)
  · have begins : ("config_" ++ name).toList.head? = some 'c' := by simp
    intro member
    have ends : ∀ text ∈ ["", ".", ".."], text.toList.head? ≠ some 'c' := by decide
    exact ends _ member begins

/-- The active configuration lies in the directory of configurations. -/
theorem IsActive.liesIn (active : host.IsActive directory path) :
    host.LiesIn (within directory "configurations") path := by
  obtain ⟨text, -, plain, rfl⟩ := active
  exact (isOwnName_configuration (isConfigurationName_iff.mpr plain)).liesIn host _

/-- The properties files are that of the active configuration and the shared one. -/
theorem mem_propertyFiles_iff : path ∈ host.propertyFiles directory ↔
    host.IsActive directory path ∨ path = within directory "properties" := by
  rw [propertyFiles, List.mem_append, List.mem_singleton]
  rcases activeProperties_cases host directory with ⟨files, inactive⟩ | ⟨active, files, same⟩
  · simp [files, inactive]
  · simp [files, same]

/-- Hosts agree on what is read for a property: on the variables, on the directory of the user's
configuration, on the file `active_config` and on the properties files. -/
structure Alike (host other : Host) : Prop where
  environment : other.environment = host.environment
  config : other.configDirectory? = host.configDirectory?
  active : ∀ directory ∈ host.gcloudDirectory?,
    other.read? (within directory "active_config") = host.read? (within directory "active_config")
  files : ∀ directory ∈ host.gcloudDirectory?, ∀ path ∈ host.propertyFiles directory,
    other.read? path = host.read? path

namespace Alike

/-- Hosts that agree on what is read have the same variables. -/
theorem valueOf?_eq (alike : host.Alike other) : other.valueOf? = host.valueOf? := by
  funext name
  rw [valueOf?, valueOf?, alike.environment]

/-- Hosts that agree on what is read keep properties in the same directory. -/
theorem gcloudDirectory?_eq (alike : host.Alike other) :
    other.gcloudDirectory? = host.gcloudDirectory? := by
  rw [gcloudDirectory?, gcloudDirectory?, alike.valueOf?_eq, alike.config]

/-- Hosts that agree on what is read have the same properties. -/
theorem property?_eq (alike : host.Alike other) (name key : String) :
    other.property? name key = host.property? name key := by
  rw [property?, property?, alike.gcloudDirectory?_eq]
  cases known : host.gcloudDirectory? with
  | none => rfl
  | some directory =>
    have files : other.propertyFiles directory = host.propertyFiles directory := by
      rw [propertyFiles, propertyFiles, activeProperties, activeProperties,
        alike.active directory known]
    simp only [files, List.filterMap_congr (alike.files directory known)]

end Alike

end Confinement

section Projects

/-- What the project of a host comes from: a variable, or else the properties files. What these tell
first counts even where it is no project id; the host then names no project. -/
inductive Names (host : Host) : Option String → Prop where
  | source {project : String} (named : host.NamedByVariable project) : Names host (some project)
  | file {project : String} (unnamed : ∀ named, ¬ host.NamedByVariable named)
      (told : host.FirstTold "core" "project" project) (valid : IsProject project) :
      Names host (some project)
  | refused {value : String} (unnamed : ∀ named, ¬ host.NamedByVariable named)
      (told : host.FirstTold "core" "project" value) (invalid : ¬ IsProject value) :
      Names host none
  | nothing (unnamed : ∀ named, ¬ host.NamedByVariable named)
      (silent : ∀ value, ¬ host.FirstTold "core" "project" value) : Names host none

/-- Where no variable names a project the property does, if it is a project id. -/
theorem defaultProject?_of_unnamed (unnamed : ∀ named, ¬ host.NamedByVariable named) :
    host.defaultProject? = (host.property? "core" "project").filter isProjectId := by
  rw [defaultProject?, find?_projectVariables_eq_none_iff.mpr unnamed]

/-- The default project is what the sources of a host name. -/
theorem names_defaultProject? (host : Host) : host.Names host.defaultProject? := by
  cases named : (projectVariables.filterMap host.valueOf?).find? isProjectId with
  | some project =>
    rw [defaultProject?, named]
    exact .source (find?_projectVariables_eq_some_iff.mp named)
  | none =>
    have unnamed := find?_projectVariables_eq_none_iff.mp named
    rw [defaultProject?_of_unnamed unnamed]
    cases told : host.property? "core" "project" with
    | none =>
      refine .nothing unnamed fun value first => ?_
      rw [property?_eq_some_iff.mpr first] at told
      cases told
    | some value =>
      have first := property?_eq_some_iff.mp told
      by_cases valid : isProjectId value = true
      · rw [Option.filter_some_pos valid]
        exact .file unnamed first (isProjectId_iff_mem_pattern.mp valid)
      · rw [Option.filter_some_neg (Bool.eq_false_iff.mpr valid)]
        exact .refused unnamed first (mt isProjectId_iff_mem_pattern.mpr valid)

/-- What the sources of a host name is the default project. -/
theorem Names.defaultProject?_eq (names : host.Names answer) : host.defaultProject? = answer := by
  cases names with
  | source named => rw [defaultProject?, find?_projectVariables_eq_some_iff.mpr named]
  | file unnamed told valid =>
    rw [defaultProject?_of_unnamed unnamed, property?_eq_some_iff.mpr told]
    exact Option.filter_some_pos (isProjectId_iff_mem_pattern.mpr valid)
  | refused unnamed told invalid =>
    rw [defaultProject?_of_unnamed unnamed, property?_eq_some_iff.mpr told]
    exact Option.filter_some_neg (Bool.eq_false_iff.mpr (mt isProjectId_iff_mem_pattern.mp invalid))
  | nothing unnamed silent =>
    rw [defaultProject?_of_unnamed unnamed]
    have untold : host.property? "core" "project" = none :=
      Option.eq_none_iff_forall_ne_some.mpr fun value told =>
        silent value (property?_eq_some_iff.mp told)
    rw [untold]
    rfl

/-- Whatever names a project gives a project id. -/
theorem Names.isProject (names : host.Names (some project)) : IsProject project := by
  cases names with
  | source named =>
    obtain ⟨front, source, back, -, -, valid, -⟩ := named
    exact valid
  | file _ _ valid => exact valid

end Projects

/-- The project of a host is what the first variable with a project id says, or else what the first
properties file with a value says, if that is a project id. So it always has the form of one. The
properties files are one that all configurations share and one directly in the directory of
configurations, whatever names it, and nothing else on the host has a say. All this holds wherever
the system locates the directories of its user, by variables or without. -/
theorem first_source_names_project (host : Host) :
    (∀ answer, host.defaultProject? = answer ↔ host.Names answer) ∧
    (∀ project ∈ host.defaultProject?, project.toList ∈ ProjectId.pattern.matches') ∧
    (∀ directory, ∀ path ∈ host.propertyFiles directory, path = within directory "properties" ∨
      host.LiesIn (within directory "configurations") path) ∧
    ∀ other, host.Alike other → other.defaultProject? = host.defaultProject? := by
  refine ⟨fun answer => ⟨?_, Names.defaultProject?_eq⟩, fun project found => ?_, ?_, ?_⟩
  · rintro rfl
    exact names_defaultProject? host
  · have names := names_defaultProject? host
    rw [Option.mem_def.mp found] at names
    exact names.isProject
  · intro directory path member
    rcases mem_propertyFiles_iff.mp member with active | rfl
    · exact .inr active.liesIn
    · exact .inl rfl
  · intro other alike
    rw [defaultProject?, defaultProject?, alike.valueOf?_eq, alike.property?_eq]

/-- A host that knows from the account of its user where the user is at home: no variable says so.
The variable for a project holds no project id, and the active configuration would lie deeper than
configurations do. -/
def strayHost : Host where
  environment := [("HOME", ""), ("GOOGLE_CLOUD_PROJECT", "Other")]
  directory := []
  files := [(["u", ".config", "gcloud", "active_config"], "x/y\n"),
    (["u", ".config", "gcloud", "properties"], "[core]\nproject = plain-1")]
  directories := [["u", ".config", "gcloud", "configurations", "config_x"]]
  locate _ := ⟨some "/u", some "/u/.config"⟩

/-- The host with a project where its active configuration would lie. -/
def strayedHost : Host :=
  strayHost.put ["u", ".config", "gcloud", "configurations", "config_x", "y"]
    "[core]\nproject = stray-1"

/-- What lies deeper is not looked at: a project there changes nothing. -/
theorem first_source_names_project_strayHost :
    strayHost.defaultProject? = some "plain-1" ∧ strayedHost.defaultProject? = some "plain-1" := by
  have found : strayHost.defaultProject? = some "plain-1" := by decide +kernel
  have known : strayHost.gcloudDirectory? = some "/u/.config/gcloud" := by decide +kernel
  have files : strayHost.propertyFiles "/u/.config/gcloud" = ["/u/.config/gcloud/properties"] := by
    decide +kernel
  have alike : strayHost.Alike strayedHost := by
    refine ⟨rfl, rfl, ?_, ?_⟩
    · intro directory member
      obtain rfl : "/u/.config/gcloud" = directory := Option.some.inj (known.symm.trans member)
      decide +kernel
    · intro directory member
      obtain rfl : "/u/.config/gcloud" = directory := Option.some.inj (known.symm.trans member)
      rw [files]
      decide +kernel
  exact ⟨found, ((first_source_names_project strayHost).2.2.2 strayedHost alike).trans found⟩

end VmLaunch.Host
