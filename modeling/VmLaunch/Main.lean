import VmLaunch.CommandLine.Run
import VmLaunch.Provider.RequestId

/-!
# The program

Reads what a run needs to know of the host, runs it and writes what it changed. The
directories of the user are those that variables name. The program carries no transport
to the provider: a run that needs one ends as if the provider were out of reach.
-/

open VmLaunch

namespace VmLaunch.Main

/-- The variables that a run may look at. -/
def variableNames : List String :=
  ["HOME", "XDG_CONFIG_HOME", "CLOUDSDK_CONFIG", "CLOUDSDK_COMPUTE_ZONE",
    "GOOGLE_APPLICATION_CREDENTIALS"] ++ Host.projectVariables

/-- The host with its variables and no files. -/
def bareHost : IO Host := do
  let mut found := []
  for name in variableNames do
    if let some value ← IO.getEnv name then found := (name, value) :: found
  let directory ← IO.currentDir
  return { environment := found, directory := Host.names directory.toString, files := [] }

/-- The host after a change, whether or not it failed. -/
def after {ε α : Type} (change : Change ε α) (host : Host) : Host :=
  match change.run host with
  | .ok _ host => host
  | .error _ host => host

/-- The host with a file or a directory, when there is one. -/
def withPath (host : Host) (path : String) : IO Host := do
  try
    let text ← IO.FS.readFile path
    return after (Host.write path text) host
  catch _ =>
    try
      unless ← (← IO.FS.realPath path).isDir do return host
      return after (Host.makeDirectories (host.start path) (Host.names path)) host
    catch _ => return host

/-- The host with what the program keeps for its user. -/
def withKept (host : Host) : IO Host := do
  let directories := host.configDirectory?.toList ++ (Settings.directory? host).toList
  let files := (Settings.path? host).toList ++ [CommandLine.logPath host]
  (directories ++ files).foldlM withPath host

/-- The host with every file that a command may look at. -/
def gather (command : CommandLine.Command) : IO Host := do
  let host ← withKept (← bareHost)
  let own :=
    match command with
    | .provision file _ => [file]
    | _ => []
  let gcloud := host.gcloudDirectory?.toList
  let host ← (own ++ gcloud.map (Host.within · "active_config")).foldlM withPath host
  (gcloud.flatMap host.propertyFiles).foldlM withPath host

/-- The credentials of the service account that the host names. -/
def credentials (host : Host) : IO (Option Credentials) := do
  match host.valueOf? "GOOGLE_APPLICATION_CREDENTIALS" with
  | none => return none
  | some path =>
    let host ← withPath host path
    return (host.read? path).bind (Credentials.ofKeyFile? "")

/-- A place as a path from the root. -/
def pathOf (place : Place) : String :=
  "/" ++ Text.join "/" place

/-- Write the files that differ from what was read. -/
def store (before after : Host) : IO Unit := do
  for (place, text) in after.files do
    if before.textAt? place != some text then
      IO.FS.createDirAll (pathOf place.dropLast)
      IO.FS.writeFile (pathOf place) text

/-- Run an invocation; the exit code. -/
def perform (invocation : CommandLine.Invocation) : IO UInt32 := do
  let host ← gather invocation.command
  let bits ← IO.rand 0 RequestId.lastBits
  let report := CommandLine.run
    { host := host
      credentials := ← credentials host
      transport := fun _ _ => none
      requestId := fun _ => RequestId.ofBits bits
      pause := Pause.manual
      patience := 1000000 } invocation
  store host report.host
  match report.result with
  | .ok text =>
    IO.print text
    return 0
  | .error cause =>
    IO.eprintln ("Error: " ++ cause.message)
    return 1

/-- The name under which the program runs. -/
def programName : IO String := do
  return (← IO.appPath).fileName.getD "gce-provisioner"

end VmLaunch.Main

/-- Run the program on the words of a command line. -/
def main (words : List String) : IO UInt32 := do
  match CommandLine.parse words with
  | .ok invocation => Main.perform invocation
  | .error .version =>
    IO.print CommandLine.versionText
    return 0
  | .error (.help command) =>
    IO.print (CommandLine.helpText (← Main.programName) command)
    return 0
  | .error .misuse =>
    IO.eprint (CommandLine.helpText (← Main.programName) none)
    return 2
