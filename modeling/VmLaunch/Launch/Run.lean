import VmLaunch.Catalog.Listing
import VmLaunch.Catalog.Lookup
import VmLaunch.Firewall.Ensure
import VmLaunch.Launch.Instance
import VmLaunch.Launch.Operation
import VmLaunch.Request.Insert

/-!
# Planning and launching

`Launch.plan` composes the request for a spec and creates nothing.
`Launch.provision` goes on: it makes every lookup before the first change, then
creates the firewall rules, inserts the machine, waits for it and reads it back.
Nothing is undone when a later step fails.
-/

namespace VmLaunch.Launch

variable (env : Environment)

/-- Whether a spec can be launched. -/
def checkSpec {σ : Type} (spec : MachineSpec) : Work σ Unit :=
  Work.ofExcept (spec.check.mapError LaunchError.invalid)

/-- The firewall rules of a spec. -/
def rulesOf {σ : Type} (spec : MachineSpec) : Work σ (List FirewallRule) :=
  Work.ofExcept (spec.rules.mapError LaunchError.invalid)

/-- The boot source of a spec as a path; an image family is looked up. -/
def resolveOrigin (spec : MachineSpec) (scope : Scope) : Work World BootOrigin :=
  match spec.bootDisk.source with
  | none => Work.fail (.invalid .noBootSource)
  | some (.publicImage imageProject (.family family)) => do
    let path ← Lookup.imageFamily env (Text.trim imageProject) (Text.trim family)
    return .image path
  | some (.publicImage imageProject (.name name)) =>
    return .image (imagePath name (Text.trim imageProject))
  | some (.customImage image) => return .image (imagePath image scope.project)
  | some (.snapshot snapshot) => return .snapshot (snapshotPath snapshot scope.project)
  | some (.existingDisk disk) => return .disk (diskPath disk scope.project scope.zone)

/-- The static internal address of a spec. -/
def resolveInternal (spec : MachineSpec) (scope : Scope) : Work World (Option String) :=
  match spec.networking.internalIp with
  | .ephemeral => return none
  | .static text => do
    let address ← Lookup.address env scope.project scope.region text
    return some address

/-- The static external address of a spec. -/
def resolveExternal (spec : MachineSpec) (scope : Scope) : Work World (Option String) :=
  match spec.networking.externalIp with
  | .absent => return none
  | .ephemeral => return none
  | .static text => do
    let address ← Lookup.address env scope.project scope.region text
    return some address

/-- Look up what the request of a spec needs, the boot source first. -/
def resolve (spec : MachineSpec) (scope : Scope) : Work World Resolved := do
  let origin ← resolveOrigin env spec scope
  let internal ← resolveInternal env spec scope
  let external ← resolveExternal env spec scope
  return ⟨origin, ⟨internal, external⟩⟩

/-- The network of rules that name none: that of the spec, else that of its
subnetwork, else the default. A subnetwork is asked about only for such a rule. -/
def ruleNetwork (spec : MachineSpec) (scope : Scope) (rules : List FirewallRule) :
    Work World String :=
  match Text.given? spec.networking.network, Text.given? spec.networking.subnetwork with
  | some network, _ => return network
  | none, some subnetwork =>
    if rules.any fun rule => rule.network.isNone then
      Lookup.subnetworkNetwork env scope.project scope.region subnetwork
    else return FirewallRule.defaultNetwork
  | none, none => return FirewallRule.defaultNetwork

/-- The request for a spec, with the tags of its rules as if they existed. -/
def plan (spec : MachineSpec) : Work World InsertRequest := do
  checkSpec spec
  let scope := spec.scope env.project
  let rules ← rulesOf spec
  let resolved ← resolve env spec scope
  return InsertRequest.assemble spec scope resolved (rules.map FirewallRule.targetTag)

/-- The path to which a machine is inserted, with an id by which the provider
recognises a repeated request. -/
def insertPath (scope : Scope) (requestId : String) : String :=
  zoneParent scope.project scope.zone "instances" ++ "?requestId=" ++ requestId

/-- Insert a machine. The answer must name the operation. -/
def insert (scope : Scope) (request : InsertRequest) : Work World Operation := do
  let requestId ← Work.read env.requestId
  let body ← env.callOr (.post (insertPath scope requestId) request.encode)
    (.provider (.insert request.name))
  let operation ← Work.require .operation (Operation.decode body)
  if operation.name == "" then
    Work.fail (.provider (.insert request.name) (.of "response carries no operation name"))
  else return operation

/-- End with an error when the signal has fired before the insert. -/
def heedBeforeInsert (signal : Signal) (spec : MachineSpec) : Work World Unit := do
  if ← Work.read signal.fired then
    Work.fail (.cancelled (.beforeInsert spec.instanceName))
  else return ()

/-- Wait for an accepted insert unless it is already done. -/
def settle (polling : Polling) (scope : Scope) (signal : Signal) (operation : Operation) :
    Work World Unit := do
  match ← Work.ofExcept operation.check with
  | .done => return ()
  | .pending =>
    let _ ← polling.wait env scope operation.name signal
    return ()

/-- Insert a machine, wait for it and report it. -/
def insertAndReport (polling : Polling) (signal : Signal) (spec : MachineSpec) (scope : Scope)
    (request : InsertRequest) : Work World InstanceSummary := do
  heedBeforeInsert signal spec
  let operation ← insert env scope request
  settle env polling scope signal operation
  let body ← InstanceSummary.fetch env scope request.name
  return InstanceSummary.project body scope.zone

/-- What is known of a run when its lookups are made. -/
structure Prepared where
  scope : Scope
  rules : List FirewallRule
  resolved : Resolved
  network : String

/-- Check a spec and make every lookup of a run. -/
def prepare (spec : MachineSpec) : Work World Prepared := do
  checkSpec spec
  let scope := spec.scope env.project
  let rules ← rulesOf spec
  let resolved ← resolve env spec scope
  let network ← ruleNetwork env spec scope rules
  return ⟨scope, rules, resolved, network⟩

/-- Drop the stored firewall rules of a project when rules were created. -/
def forgetRules (project : String) (rules : List FirewallRule) : Work Session Unit :=
  if rules.isEmpty then return () else Catalog.forgetFirewalls project

/-- Create the machine of a spec. -/
def provision (polling : Polling) (signal : Signal) (spec : MachineSpec) :
    Work Session InstanceSummary := do
  let run ← (prepare env spec).inSession
  let tags ← (Firewall.ensure env run.scope.project run.network run.rules).inSession
  forgetRules run.scope.project run.rules
  let request := InsertRequest.assemble spec run.scope run.resolved tags
  (insertAndReport env polling signal spec run.scope request).inSession

end VmLaunch.Launch
