import VmLaunch.CommandLine.Invocation
import VmLaunch.Settings.Basic

/-!
# The log

The log lies beside the settings of a user, or at home where these have no place. It is
opened before anything else is done, unless the level of the log is `off`, and a run that
cannot open it does nothing.
-/

namespace VmLaunch.CommandLine

/-- Where the log of a user lies. -/
def logPath (host : Host) : String :=
  match Settings.directory? host with
  | some directory => Host.within directory "gce-provisioner.log"
  | none =>
    match host.homeDirectory? with
    | some home => Host.within (Host.within home ".gce-provisioner") "gce-provisioner.log"
    | none => "gce-provisioner.log"

/-- The host with the log opened at a level, or where the log cannot be opened. -/
def openLog (host : Host) (level : LogLevel) : Except String Host :=
  if level = .off then .ok host
  else
    match (Host.append (logPath host) "").run host with
    | .ok _ host => .ok host
    | .error _ _ => .error (logPath host)

end VmLaunch.CommandLine
