import VmLaunch.CommandLine.Help

/-!
# Invocations

What the program can be asked to do, and the command lines that ask for it. The
project, the zone and the level of the log may be named before the command or after
it; what is named after it counts.
-/

namespace VmLaunch.CommandLine

/-- What can be listed. -/
inductive ListKind where
  | regions
  | zones
  | machineTypes
  | diskTypes
  | images
  | customImages
  | imageFamilies
  | disks
  | snapshots
  | resourcePolicies
  | networks
  | subnetworks
  | addresses
  | firewalls
  deriving DecidableEq, Inhabited

/-- The words for what can be listed. -/
def ListKind.words : List (String × ListKind) :=
  [("regions", .regions), ("zones", .zones), ("machine-types", .machineTypes),
   ("disk-types", .diskTypes), ("images", .images), ("custom-images", .customImages),
   ("image-families", .imageFamilies), ("disks", .disks), ("snapshots", .snapshots),
   ("resource-policies", .resourcePolicies), ("networks", .networks),
   ("subnetworks", .subnetworks), ("addresses", .addresses), ("firewalls", .firewalls)]

/-- What a word asks to list. -/
def ListKind.ofWord? (word : String) : Option ListKind :=
  words.lookup word

/-- What the program is asked to do. -/
inductive Command where
  | provision (file : String) (dryRun : Bool)
  | list (kind : ListKind) (region : Option String) (imageProject : String)
  | configure
  | estimate (region : String) (vcpus memoryGb : Binary64) (spot : Bool)
  deriving Inhabited

/-- How much the log tells. -/
inductive LogLevel where
  | off
  | error
  | warn
  | info
  | debug
  | trace
  deriving DecidableEq, Inhabited

/-- The words for how much the log tells. -/
def LogLevel.words : List (String × LogLevel) :=
  [("off", .off), ("error", .error), ("warn", .warn), ("info", .info), ("debug", .debug),
   ("trace", .trace)]

/-- How much the log tells at a word. -/
def LogLevel.ofWord? (word : String) : Option LogLevel :=
  words.lookup word

/-- A command with what holds for all commands. -/
structure Invocation where
  project : Option String
  zone : Option String
  logLevel : LogLevel
  command : Command
  deriving Inhabited

/-- What is printed for the version. -/
def versionText : String :=
  "gce-provisioner 0.1.0\n"

/-- The switches of every level. -/
def sharedSwitches : List Switch :=
  [{ name := "project", letter := some 'p', kind := .value .text, purpose := "GCP project to use" },
   { name := "zone", letter := some 'z', kind := .value .text, purpose := "GCP zone to use" },
   { name := "log-level", kind := .value (.oneOf (LogLevel.words.map (·.1))),
     purpose := "Log level for debugging", fallback := some "off" }]

/-- The switch that asks for help. -/
def helpSwitch : Switch where
  name := "help"
  letter := some 'h'
  kind := .help
  purpose := "Print help"

/-- The switch that asks for the version. -/
def versionSwitch : Switch where
  name := "version"
  letter := some 'V'
  kind := .version
  purpose := "Print version"

/-- The level of creating a machine. -/
def provisionLevel : Level where
  command := some "provision"
  purpose := "Create the VM described by a JSON or YAML file"
  own :=
    [{ name := "file", letter := some 'f', kind := .value .path, required := true },
     { name := "dry-run", kind := .flag,
       purpose := "Print the insert request instead of creating anything" }]
  shared := sharedSwitches
  closing := [helpSwitch]

/-- The level of listing resources. -/
def listLevel : Level where
  command := some "list"
  purpose := "List catalog resources"
  own :=
    [{ name := "region", kind := .value .text,
       purpose := "Region for regional resources (defaults to the zone's region)" },
     { name := "image-project", kind := .value .text,
       purpose := "Image project for \x60images\x60 and \x60image-families\x60",
       fallback := some "debian-cloud" }]
  shared := sharedSwitches
  closing := [helpSwitch]
  operand := some { label := "<KIND>", kind := .oneOf (ListKind.words.map (·.1)) }

/-- The level of keeping settings. -/
def configureLevel : Level where
  command := some "configure"
  purpose := "Save --project and --zone as defaults, or show the current settings"
  shared := sharedSwitches
  closing := [helpSwitch]

/-- The level of estimating a price. -/
def estimateLevel : Level where
  command := some "estimate"
  purpose := "Estimate the monthly cost of a machine shape"
  own :=
    [{ name := "region", kind := .value .text, required := true },
     { name := "vcpus", kind := .value .number, required := true },
     { name := "memory-gb", kind := .value .number, required := true },
     { name := "spot", kind := .flag }]
  shared := sharedSwitches
  closing := [helpSwitch]

/-- The level of asking for help, which has no switches. -/
def helpLevel : Level where
  command := some "help"
  purpose := "Print this message or the help of the given subcommand(s)"
  operand :=
    some { label := "[COMMAND]...", kind := .text, purpose := "Print help for the subcommand(s)" }

/-- The levels of the commands by their names. -/
def commandLevels : List (String × Level) :=
  [("provision", provisionLevel), ("list", listLevel), ("configure", configureLevel),
   ("estimate", estimateLevel), ("help", helpLevel)]

/-- The level of the program itself. -/
def programLevel : Level where
  purpose := "Provision Compute Engine VMs from a declarative configuration"
  shared := sharedSwitches
  closing := [helpSwitch, versionSwitch]
  commands := commandLevels.map fun (name, level) => (name, level.purpose)

/-- The level of a command, or of the program. -/
def levelOf? : Option String → Option Level
  | none => some programLevel
  | some command => commandLevels.lookup command

/-- What is printed for help. -/
def helpText (program : String) (command : Option String) : String :=
  ((levelOf? command).getD programLevel).help program

/-- The number of a switch. -/
def number? (found : Found) (name : String) : Option Binary64 :=
  (found.value? name).bind Binary64.parse?

/-- The command of a name with what was read at its level. -/
def commandOf? (name : String) (found : Found) : Option Command :=
  match name with
  | "provision" => (found.value? "file").map fun file => .provision file (found.has "dry-run")
  | "list" =>
    (found.operands.head?.bind ListKind.ofWord?).map fun kind =>
      .list kind (found.value? "region") ((found.value? "image-project").getD "debian-cloud")
  | "configure" => some .configure
  | "estimate" => do
    let region ← found.value? "region"
    let vcpus ← number? found "vcpus"
    let memoryGb ← number? found "memory-gb"
    return .estimate region vcpus memoryGb (found.has "spot")
  | _ => none

/-- The invocation of what was read before a command and after it. -/
def invocation? (outer inner : Found) (command : String) : Option Invocation :=
  let shared (name : String) : Option String := (inner.value? name).or (outer.value? name)
  if outer.refused then none
  else
    (commandOf? command inner).map fun command =>
      ⟨shared "project", shared "zone", ((shared "log-level").bind LogLevel.ofWord?).getD .off,
        command⟩

/-- Read a request for help on a command, or on the program. -/
def helpOn (words : List String) : Stop :=
  match words with
  | [] => .help none
  | [word] => if programLevel.hasCommand word then .help (some word) else .misuse
  | _ => .misuse

/-- Read the words of a command line. -/
def parse (words : List String) : Except Stop Invocation :=
  match programLevel.read {} words with
  | .error stop => .error stop
  | .ok (_, none) => .error .misuse
  | .ok (_, some ("help", rest)) => .error (helpOn rest)
  | .ok (outer, some (command, rest)) =>
    match levelOf? (some command) with
    | none => .error .misuse
    | some level =>
      match level.read {} rest with
      | .error stop => .error stop
      | .ok (inner, _) =>
        match invocation? outer inner command with
        | some invocation => .ok invocation
        | none => .error .misuse

end VmLaunch.CommandLine
