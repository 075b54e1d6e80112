import VmLaunch.Provider.Fault
import VmLaunch.Spec.Check

/-!
# Launch errors

A `LaunchError` retains the cause of a failed run, and its kind tells how far
the run came: faults of the spec and of lookups arise before anything is
created, an unreadable instance only after the machine exists. All wording is in
the `message` functions.
-/

namespace VmLaunch

/-- What a lookup was after. -/
inductive LookupKind where
  | imageFamily
  | address
  | subnetwork
  deriving DecidableEq, Inhabited

/-- Why a lookup gave nothing. -/
inductive LookupCause where
  | callFailed (fault : Fault)
  | noSelfLink
  | emptyName
  | noIp
  | noNetwork
  deriving DecidableEq, Inhabited

/-- What the provider was asked to do. -/
inductive Task where
  | list (path : String)
  | createRule (name : String)
  | insert (instanceName : String)
  | poll (operation : String)
  deriving DecidableEq, Inhabited

/-- What a run was about to do or waiting for when it was cancelled. -/
inductive Stopped where
  | beforeInsert (instanceName : String)
  | waiting (operation : String)
  deriving DecidableEq, Inhabited

/-- An answer whose form is not the expected one. -/
inductive Malformed where
  | page (path : String)
  | imageFamily (family : String)
  | address (name : String)
  | subnetwork (reference : String)
  | operation
  deriving DecidableEq, Inhabited

/-- Why a run failed. -/
inductive LaunchError where
  | invalid (cause : SpecError)
  | unresolved (kind : LookupKind) (reference : String) (cause : LookupCause)
  | provider (task : Task) (fault : Fault)
  | operationFailed (reason : String)
  | operationTimeout (operation : String)
  | unexpectedStatus (operation status : String)
  | cancelled (stopped : Stopped)
  | unreadableInstance (name : String) (fault : Fault)
  | malformed (what : Malformed)
  deriving DecidableEq, Inhabited

/-- The wording of a fault of a rule. -/
def RuleError.message : RuleError → String
  | .noProtocol entry => "firewall rule entry '" ++ entry ++ "' has no protocol"
  | .emptyPort entry => "firewall rule entry '" ++ entry ++ "' has an empty port"
  | .noName => "firewall rule name is required"
  | .noAllow rule => "firewall rule " ++ rule ++ " needs at least one allow entry"
  | .noSourceRange rule => "firewall rule " ++ rule ++ " needs at least one source range"
  | .noTargetTag rule => "firewall rule " ++ rule ++ " needs a target tag"

/-- The wording of a fault of a spec. -/
def SpecError.message : SpecError → String
  | .noInstanceName => "instance name is required"
  | .badInstanceName name =>
    "instance name '" ++ name ++
      "' must be 1-63 lowercase letters, digits or hyphens and start with a letter"
  | .noZone => "zone is required"
  | .noMachineType => "machine type is required"
  | .noBootSource => "boot disk source (image, snapshot or disk) is required"
  | .blankBootSource => "boot disk source is missing its image, snapshot or disk"
  | .rule cause => cause.message

/-- The name of what a lookup was after. -/
def LookupKind.label : LookupKind → String
  | .imageFamily => "image family"
  | .address => "address"
  | .subnetwork => "subnetwork"

/-- The wording of the reason for an empty lookup. -/
def LookupCause.message : LookupCause → String
  | .callFailed fault => fault.chain
  | .noSelfLink => "response has no selfLink"
  | .emptyName => "empty address name"
  | .noIp => "reserved address has no IP"
  | .noNetwork => "subnetwork has no network"

/-- The wording of a task. -/
def Task.label : Task → String
  | .list path => "list " ++ path
  | .createRule name => "create firewall rule " ++ name
  | .insert instanceName => "insert instance " ++ instanceName
  | .poll operation => "poll operation " ++ operation

/-- The wording of what was stopped. -/
def Stopped.label : Stopped → String
  | .beforeInsert instanceName => "insert of " ++ instanceName
  | .waiting operation => operation

/-- The wording of what could not be read. -/
def Malformed.label : Malformed → String
  | .page path => "page of " ++ path
  | .imageFamily family => "image family " ++ family
  | .address name => "address " ++ name
  | .subnetwork reference => "subnetwork " ++ reference
  | .operation => "operation"

/-- The wording of an error. -/
def LaunchError.message : LaunchError → String
  | .invalid cause => "invalid configuration: " ++ cause.message
  | .unresolved kind reference cause =>
    "cannot resolve " ++ kind.label ++ " '" ++ reference ++ "': " ++ cause.message
  | .provider task fault => task.label ++ ": " ++ fault.outermost
  | .operationFailed reason => "operation failed: " ++ reason
  | .operationTimeout operation => "timeout waiting for operation " ++ operation
  | .unexpectedStatus operation status =>
    "unexpected status '" ++ status ++ "' for operation " ++ operation
  | .cancelled stopped => "cancelled while waiting for operation " ++ stopped.label
  | .unreadableInstance name fault =>
    "instance " ++ name ++ " was created but could not be read back: " ++ fault.outermost
  | .malformed what => "failed to decode " ++ what.label

/-- Whether the error was found before anything was sent to the provider. -/
def LaunchError.isInvalid : LaunchError → Bool
  | .invalid _ => true
  | _ => false

end VmLaunch
