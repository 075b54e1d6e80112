import VmLaunch.Firewall.Rule
import VmLaunch.Provider.Work

/-!
# Creating firewall rules

Rules are created one after the other. A rule that already exists counts as
created; any other failure ends the work. The target tags of the rules, each
once, are what the machine will carry.
-/

namespace VmLaunch.Firewall

/-- The phrase by which the provider says that a resource exists. -/
def existsPhrase : String := "already exists"

/-- The lower-case beginning of a fault for the status of a conflict. -/
def conflictPhrase : String := "api request failed: 409"

/-- Whether a fault says that the resource already exists. -/
def alreadyExists (fault : Fault) : Bool :=
  let message := Text.lower fault.chain
  Text.contains message existsPhrase || Text.contains message conflictPhrase

/-- Add a tag unless it is there. -/
def addTag (tags : List String) (tag : String) : List String :=
  if tags.contains tag then tags else tags ++ [tag]

/-- The call that creates a rule. -/
def createCall (project network : String) (rule : FirewallRule) : Call :=
  .post (globalParent project "firewalls") (rule.payload project network).encode

/-- Create one rule. -/
def create (env : Environment) (project network : String) (rule : FirewallRule) :
    Work World Unit := do
  match ← env.call (createCall project network rule) with
  | .ok _ => return ()
  | .error fault =>
    if alreadyExists fault then return ()
    else Work.fail (.provider (.createRule rule.name) fault)

/-- Create rules in turn, with the tags of the rules before them. -/
def createAll (env : Environment) (project network : String) :
    List String → List FirewallRule → Work World (List String)
  | tags, [] => return tags
  | tags, rule :: rest => do
    create env project network rule
    createAll env project network (addTag tags rule.targetTag) rest

/-- Create every rule and yield the target tags. -/
def ensure (env : Environment) (project network : String) (rules : List FirewallRule) :
    Work World (List String) :=
  createAll env project network [] rules

end VmLaunch.Firewall
