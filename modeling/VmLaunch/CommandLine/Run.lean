import VmLaunch.Catalog.Listing
import VmLaunch.CommandLine.Invocation
import VmLaunch.CommandLine.Log
import VmLaunch.Http.Connection
import VmLaunch.Launch.Run
import VmLaunch.Price
import VmLaunch.Settings.Basic
import VmLaunch.Spec.Encode
import VmLaunch.Spec.File

/-!
# Running a command

A command sees the host, the credentials and a transport to the provider, and it
yields a text to print or the reason why there is none. The log is opened first, a
spec is read before anything is sent, and a project must be known before a connection
counts.
-/

namespace VmLaunch.CommandLine

/-- What surrounds a run. The transport also sees the requests sent before. -/
structure Surroundings where
  host : Host
  credentials : Option Credentials
  transport : List HttpRequest → HttpRequest → Option HttpResponse
  requestId : World → String
  pause : World → Duration → Pause
  patience : Nat

/-- Why a command printed nothing. -/
inductive CommandError where
  | log (path : String)
  | spec (path : String) (cause : SpecFileError)
  | connection (cause : ConnectError)
  | launch (cause : LaunchError)
  | settings (cause : SettingsError)
  | unfinished
  deriving Inhabited

/-- The wording of a fault of a spec file. -/
def specFileMessage (path : String) : SpecFileError → String
  | .unreadable => "Failed to read " ++ path
  | .malformed .json => "Invalid JSON in " ++ path
  | .malformed .yaml => "Invalid YAML in " ++ path

/-- The wording of an error. -/
def CommandError.message : CommandError → String
  | .log path => "Failed to open log file " ++ path
  | .spec path cause => specFileMessage path cause
  | .connection cause => cause.message
  | .launch cause => cause.message
  | .settings cause => cause.message
  | .unfinished => "the provider keeps the run waiting"

/-- How a command ended, the host afterwards and what was sent. -/
structure Report where
  result : Except CommandError String
  host : Host
  sent : List HttpRequest := []

/-- A value as a command prints it. -/
def printed (value : Json) : String :=
  value.pretty ++ "\n"

/-- The requests that were sent in a world. -/
def requestsOf (client : Client) (world : World) : List HttpRequest :=
  world.calls.filterMap fun call =>
    match client.request call with
    | .ok request => some request
    | .error _ => none

/-- The world of a connection. -/
def environment (s : Surroundings) (connection : Connection) : Environment where
  project := connection.project
  requestId := s.requestId
  reply world call :=
    { answer := connection.client.send (s.transport (requestsOf connection.client world)) call }
  pause := s.pause
  patience := s.patience

/-- Connect to the provider of the settings. -/
def connect (s : Surroundings) (settings : Settings) (project : String) :
    Except ConnectError Connection :=
  match Connection.establish s.credentials project settings.root with
  | .ok connection => connection.withProject
  | .error cause => .error cause

/-- The result of work that yields a value to print. -/
def resultOf (outcome : Outcome Json) : Except CommandError String :=
  match outcome with
  | .ok value => .ok (printed value)
  | .error cause => .error (.launch cause)
  | .unfinished => .error .unfinished

/-- Do work over a connection. -/
def online (s : Surroundings) (settings : Settings) (project : String)
    (work : Connection → Environment → Work Session Json) : Report :=
  match connect s settings project with
  | .error cause => ⟨.error (.connection cause), s.host, []⟩
  | .ok connection =>
    let (outcome, session) :=
      work connection (environment s connection) (.start settings.cacheDuration)
    ⟨resultOf outcome, s.host, requestsOf connection.client session.world⟩

/-- Entries as a list. -/
def entries {α : Type} (encode : α → Json) (work : Work Session (List α)) : Work Session Json := do
  let values ← work
  return .arr (values.map encode)

/-- List resources. -/
def listing (env : Environment) (kind : ListKind) (project zone region imageProject : String) :
    Work Session Json :=
  match kind with
  | .regions => entries Region.encode (Catalog.listRegions env project)
  | .zones => entries Zone.encode (Catalog.listZones env project (some region))
  | .machineTypes => entries MachineType.encode (Catalog.listMachineTypes env project zone)
  | .diskTypes => entries DiskType.encode (Catalog.listDiskTypes env project zone)
  | .images => entries Image.encode (Catalog.listPublicImages env imageProject)
  | .customImages => entries Image.encode (Catalog.listCustomImages env project)
  | .imageFamilies => entries Json.str (Catalog.listImageFamilies env imageProject)
  | .disks => entries Disk.encode (Catalog.listDisks env project zone)
  | .snapshots => entries Snapshot.encode (Catalog.listSnapshots env project)
  | .resourcePolicies =>
    entries ResourcePolicy.encode (Catalog.listResourcePolicies env project region)
  | .networks => entries Network.encode (Catalog.listNetworks env project)
  | .subnetworks => entries Subnetwork.encode (Catalog.listSubnetworks env project region)
  | .addresses => entries ReservedAddress.encode (Catalog.listAddresses env project region)
  | .firewalls => entries ListedRule.encode (Catalog.listFirewalls env project)

/-- Print the request for a spec. -/
def dryRun (env : Environment) (spec : MachineSpec) : Work Session Json := do
  let request ← (Launch.plan env spec).inSession
  return request.encode

/-- Create the machine of a spec. -/
def launch (env : Environment) (polling : Polling) (spec : MachineSpec) : Work Session Json := do
  let summary ← Launch.provision env polling .shared spec
  return InstanceSummary.encodeMap summary.toMap

/-- A spec with a zone to fall back on. -/
def withZone (spec : MachineSpec) (zone : String) : MachineSpec :=
  if Text.blank spec.zone then { spec with zone := zone } else spec

/-- Store defaults when some are given, and print the settings. -/
def configure (s : Surroundings) (settings : Settings) (project zone : Option String) : Report :=
  if project.isNone && zone.isNone then ⟨.ok (printed settings.encode), s.host, []⟩
  else
    match settings.update project zone with
    | .error cause => ⟨.error (.settings cause), s.host, []⟩
    | .ok settings =>
      match settings.save.run s.host with
      | .error cause host => ⟨.error (.settings cause), host, []⟩
      | .ok _ host => ⟨.ok (printed settings.encode), host, []⟩

/-- Print what a machine costs. -/
def estimate (region : String) (vcpus memoryGb : Binary64) (spot : Bool) : Json :=
  let model : Spec.ProvisioningModel := if spot then .spot else .standard
  let cost := Price.monthly region model vcpus.toFloat memoryGb.toFloat
  .obj [("estimate", .str (Price.label cost)),
    ("monthlyCost", .num (.float (Binary64.ofFloat cost))),
    ("provisioningModel", .str model.word),
    ("region", .str region)]

/-- Carry out a command on a host whose log is open. -/
def runOpened (s : Surroundings) (invocation : Invocation) : Report :=
  let settings := Settings.load s.host
  let project := settings.effectiveProject s.host invocation.project
  let zone := settings.effectiveZone s.host invocation.zone
  match invocation.command with
  | .configure => configure s settings invocation.project invocation.zone
  | .estimate region vcpus memoryGb spot =>
    ⟨.ok (printed (estimate region vcpus memoryGb spot)), s.host, []⟩
  | .list kind region imageProject =>
    online s settings project fun connection env =>
      listing env kind connection.project zone (region.getD (regionOfZone zone)) imageProject
  | .provision file dry =>
    match MachineSpec.load s.host file with
    | .error cause => ⟨.error (.spec file cause), s.host, []⟩
    | .ok spec =>
      let spec := withZone spec zone
      let polling : Polling := ⟨settings.intervalDuration, settings.timeoutDuration⟩
      online s settings project fun _ env =>
        if dry then dryRun env spec else launch env polling spec

/-- Carry out an invocation. -/
def run (s : Surroundings) (invocation : Invocation) : Report :=
  match openLog s.host invocation.logLevel with
  | .ok host => runOpened { s with host := host } invocation
  | .error path => ⟨.error (.log path), s.host, []⟩

end VmLaunch.CommandLine
