import VmLaunch.Firewall.Allow
import VmLaunch.Reference
import VmLaunch.Spec.Basic

/-!
# Firewall rules

A `FirewallRule` is a rule text that has everything a rule needs. Its payload is
the body of the request that creates it: traffic is let in on the rule's own
network or, when it names none, on the network it is given.
-/

namespace VmLaunch

/-- A complete firewall rule. -/
structure FirewallRule where
  name : String
  allowed : List AllowEntry
  sourceRanges : List String
  targetTag : String
  network : Option String
  priority : UInt32
  description : Option String
  deriving DecidableEq, Inhabited

/-- The body of a request that creates a firewall rule. -/
structure RulePayload where
  name : String
  network : String
  priority : UInt32
  allowed : List AllowEntry
  sourceRanges : List String
  targetTags : List String
  description : Option String
  deriving DecidableEq, Inhabited

namespace RulePayload

/-- The payload as JSON; the rule concerns incoming traffic. -/
def encode (p : RulePayload) : Json :=
  .obj ([("name", .str p.name), ("network", .str p.network), ("direction", .str "INGRESS"),
      ("priority", Json.int p.priority.toNat),
      ("allowed", .arr (p.allowed.map AllowEntry.encode)),
      ("sourceRanges", Json.strs p.sourceRanges),
      ("targetTags", Json.strs p.targetTags)] ++
    Json.memberWhen "description" Json.str p.description)

end RulePayload

namespace FirewallRule

/-- The priority of a rule that gives none. -/
def defaultPriority : UInt32 := 1000

/-- The network of rules when nothing names another. -/
def defaultNetwork : String := "default"

/-- The rule of a text, or the first thing that it lacks. -/
def ofText (text : Spec.RuleText) : Except RuleError FirewallRule :=
  match Text.filled? text.name with
  | none => .error .noName
  | some name =>
    match Firewall.parseAllow text.allow with
    | .error cause => .error cause
    | .ok [] => .error (.noAllow name)
    | .ok (entry :: entries) =>
      match Firewall.commaList text.sourceRanges with
      | [] => .error (.noSourceRange name)
      | range :: ranges =>
        match Text.filled? text.targetTag with
        | none => .error (.noTargetTag name)
        | some targetTag =>
          .ok {
            name
            allowed := entry :: entries
            sourceRanges := range :: ranges
            targetTag
            network := Text.given? text.network
            priority := text.priority.getD defaultPriority
            description := text.description }

/-- The rules of several texts, or the first fault of the first faulty one. -/
def ofTexts : List Spec.RuleText → Except RuleError (List FirewallRule)
  | [] => .ok []
  | text :: rest =>
    match ofText text with
    | .error cause => .error cause
    | .ok rule => (ofTexts rest).map fun rules => rule :: rules

/-- The payload that creates the rule in a project. -/
def payload (rule : FirewallRule) (project network : String) : RulePayload where
  name := rule.name
  network := networkPath (rule.network.getD network) project
  priority := rule.priority
  allowed := rule.allowed
  sourceRanges := rule.sourceRanges
  targetTags := [rule.targetTag]
  description := rule.description

end FirewallRule

end VmLaunch
