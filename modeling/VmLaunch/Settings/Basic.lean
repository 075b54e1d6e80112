import VmLaunch.Time
import VmLaunch.Http.Request
import VmLaunch.Json.Printer
import VmLaunch.Settings.Defaults
import VmLaunch.Source.Record

/-!
# Settings

Settings are what a user keeps between runs: a project and a zone to fall back on,
where the provider is and how long to cache and to wait. They are stored as a JSON
object; a file that is missing or cannot be read counts as one without members.
-/

namespace VmLaunch

/-- What a user keeps between runs. Times are in seconds. -/
structure Settings where
  project : Option String := none
  zone : Option String := none
  root : String := Endpoint.publicRoot
  cacheTtl : UInt64 := 86400
  pollInterval : UInt64 := 3
  pollTimeout : UInt64 := 600
  deriving DecidableEq, Inhabited

/-- Why settings cannot be changed or stored. -/
inductive SettingsError where
  | badProject (text : String)
  | noDirectory
  | file (cause : FileError)
  deriving DecidableEq, Inhabited

/-- The wording of an error. -/
def SettingsError.message : SettingsError → String
  | .badProject text => "Invalid project ID: " ++ text
  | .noDirectory => "No config directory available"
  | .file cause => cause.message

/-- Why a settings file gives no settings. -/
inductive SettingsFileError where
  | unreadable
  | malformed
  deriving DecidableEq, Inhabited

namespace Settings

/-- The members of stored settings, in order. -/
def fieldNames : List String :=
  ["project_id", "zone", "api_base_url", "cache_ttl_secs", "poll_interval_secs",
    "poll_timeout_secs"]

open Source in
/-- Read settings. What is missing has its default. -/
def decode {ν : Type} [Source ν] (tree : ν) : Option Settings := do
  let slots ← slots? fieldNames tree
  let project ← slots.fieldOr "project_id" none optionalText
  let zone ← slots.fieldOr "zone" none optionalText
  let root ← slots.fieldOr "api_base_url" Endpoint.publicRoot Source.text?
  let cacheTtl ← slots.fieldOr "cache_ttl_secs" 86400 nat64
  let pollInterval ← slots.fieldOr "poll_interval_secs" 3 nat64
  let pollTimeout ← slots.fieldOr "poll_timeout_secs" 600 nat64
  return ⟨project, zone, root, cacheTtl, pollInterval, pollTimeout⟩

/-- A number of seconds as a value. -/
def encodeSecs (n : UInt64) : Json :=
  Json.int (Int.ofNat n.toNat)

/-- The settings as a value. -/
def encode (settings : Settings) : Json :=
  .obj [("project_id", Json.optional Json.str settings.project),
    ("zone", Json.optional Json.str settings.zone),
    ("api_base_url", .str settings.root),
    ("cache_ttl_secs", encodeSecs settings.cacheTtl),
    ("poll_interval_secs", encodeSecs settings.pollInterval),
    ("poll_timeout_secs", encodeSecs settings.pollTimeout)]

/-- The text of stored settings. -/
def text (settings : Settings) : String :=
  settings.encode.pretty

/-- The settings that a text stores. -/
def ofText? (text : String) : Option Settings :=
  (Written.parse? text).bind decode

/-- The settings of a file. -/
def loadFrom (host : Host) (path : String) : Except SettingsFileError Settings :=
  match host.read? path with
  | none => .error .unreadable
  | some text =>
    match ofText? text with
    | some settings => .ok settings
    | none => .error .malformed

/-- The directory of what the program keeps for a user. -/
def directory? (host : Host) : Option String :=
  host.configDirectory?.map fun directory => Host.within directory "gce-provisioner"

/-- Where the settings of a user are stored. -/
def path? (host : Host) : Option String :=
  (directory? host).map fun directory => Host.within directory "config.json"

/-- The settings of the user. -/
def load (host : Host) : Settings :=
  match path? host with
  | none => {}
  | some path =>
    match loadFrom host path with
    | .ok settings => settings
    | .error _ => {}

/-- Store the settings in a file. -/
def saveTo (settings : Settings) (path : String) : Change SettingsError Unit :=
  (Host.write path settings.text).adaptExcept .file

/-- Store the settings for the user; the path of the file. -/
def save (settings : Settings) : Change SettingsError String := do
  match path? (← get) with
  | none => throw .noDirectory
  | some path =>
    settings.saveTo path
    return path

/-- Take a project as the one to fall back on. -/
def adoptProject (project : String) : EStateM SettingsError Settings Unit :=
  if isProjectId project then modify fun settings => { settings with project := some project }
  else throw (.badProject project)

/-- Take a zone as the one to fall back on. -/
def adoptZone (zone : String) : EStateM SettingsError Settings Unit :=
  modify fun settings => { settings with zone := some zone }

/-- Take the given project, then the given zone. What is not given stays as it is. -/
def adopt (project zone : Option String) : EStateM SettingsError Settings Unit := do
  project.forM adoptProject
  zone.forM adoptZone

/-- The settings with the given project and zone. -/
def update (settings : Settings) (project zone : Option String) : Except SettingsError Settings :=
  match (adopt project zone).run settings with
  | .ok _ settings => .ok settings
  | .error cause _ => .error cause

/-- The project of a run: that of a flag, of the settings or of the host; the empty
text when none is named. -/
def effectiveProject (settings : Settings) (host : Host) (flag : Option String) : String :=
  ((flag.or settings.project).or host.defaultProject?).getD ""

/-- The zone of a run: that of a flag, of the settings or of the host. -/
def effectiveZone (settings : Settings) (host : Host) (flag : Option String) : String :=
  ((flag.or settings.zone).or host.defaultZone?).getD "us-central1-a"

/-- How long listings are cached. -/
def cacheDuration (settings : Settings) : Duration :=
  .ofSecs settings.cacheTtl.toNat

/-- How long to sleep between two polls; at least a second. -/
def intervalDuration (settings : Settings) : Duration :=
  .ofSecs (max 1 settings.pollInterval.toNat)

/-- How long to poll. -/
def timeoutDuration (settings : Settings) : Duration :=
  .ofSecs settings.pollTimeout.toNat

end Settings

end VmLaunch
