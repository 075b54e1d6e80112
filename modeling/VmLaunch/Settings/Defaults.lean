import VmLaunch.Host
import VmLaunch.Names
import VmLaunch.Settings.Properties

/-!
# Defaults of the host

Where neither a flag nor the settings name a project or a zone, the host may: by a
variable, or by the properties that the gcloud tool keeps. The properties of its
active configuration come before those that all configurations share. Only a text
with the form of a project id counts as a project; a zone is taken as it is.
-/

namespace VmLaunch.Host

/-- The directory of the gcloud tool. -/
def gcloudDirectory? (host : Host) : Option String :=
  match host.valueOf? "CLOUDSDK_CONFIG" with
  | some directory => some directory
  | none => host.configDirectory?.map fun directory => within directory "gcloud"

/-- Whether a text may name a configuration, so that it cannot lead elsewhere. -/
def isConfigurationName (name : String) : Bool :=
  name.toList.all fun c => c.isAlphanum || c == '-' || c == '_'

/-- The properties of the active configuration. -/
def activeProperties (host : Host) (directory : String) : List String :=
  match (host.read? (within directory "active_config")).map Text.trim with
  | some name =>
    if isConfigurationName name then
      [within (within directory "configurations") ("config_" ++ name)]
    else []
  | none => []

/-- The properties files, the most specific first. -/
def propertyFiles (host : Host) (directory : String) : List String :=
  activeProperties host directory ++ [within directory "properties"]

/-- The first value of a property in the properties files. -/
def property? (host : Host) (name key : String) : Option String :=
  match host.gcloudDirectory? with
  | none => none
  | some directory =>
    ((host.propertyFiles directory).filterMap host.read?).findSome? fun text =>
      Properties.value? text name key

/-- The variables that may name a project, in the order in which they count. -/
def projectVariables : List String :=
  ["CLOUDSDK_CORE_PROJECT", "GOOGLE_CLOUD_PROJECT", "GCLOUD_PROJECT"]

/-- The project that the host names. -/
def defaultProject? (host : Host) : Option String :=
  match (projectVariables.filterMap host.valueOf?).find? isProjectId with
  | some project => some project
  | none => (host.property? "core" "project").filter isProjectId

/-- The zone that the host names. -/
def defaultZone? (host : Host) : Option String :=
  match host.valueOf? "CLOUDSDK_COMPUTE_ZONE" with
  | some zone => some zone
  | none => host.property? "compute" "zone"

end VmLaunch.Host
