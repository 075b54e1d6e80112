import VmLaunch.Json.Basic
import VmLaunch.Spec.Words
import VmLaunch.Text.Blank

/-!
# Identity and protection of a request

A machine acts as a service account when the spec names an account or a scope;
the one that is missing takes its default.
-/

namespace VmLaunch

/-- The account the machine acts as, with its scopes. -/
structure ServiceAccount where
  email : String
  scopes : List String
  deriving DecidableEq, Inhabited

namespace ServiceAccount

/-- The project's own account. -/
def defaultEmail : String := "default"

/-- The scope that covers every service. -/
def platformScope : String := "https://www.googleapis.com/auth/cloud-platform"

/-- The scopes that are not blank, trimmed. -/
def normalScopes (scopes : List String) : List String :=
  Text.filledAll scopes

/-- The account of a spec. -/
def ofSpec? (identity : Spec.Identity) : Option ServiceAccount :=
  match Text.given? identity.serviceAccount, normalScopes identity.scopes with
  | none, [] => none
  | email, [] => some ⟨email.getD defaultEmail, [platformScope]⟩
  | email, scope :: scopes => some ⟨email.getD defaultEmail, scope :: scopes⟩

/-- The account as a part of a request. -/
def encode (a : ServiceAccount) : Json :=
  .obj [("email", .str a.email), ("scopes", Json.strs a.scopes)]

end ServiceAccount

namespace Protection

/-- The checks of the boot sequence as a part of a request. -/
def encodeShielded (s : Spec.ShieldedVm) : Json :=
  .obj [("enableSecureBoot", .bool s.secureBoot), ("enableVtpm", .bool s.vtpm),
    ("enableIntegrityMonitoring", .bool s.integrityMonitoring)]

/-- The confidential computing technology as a part of a request. -/
def encodeConfidential (t : Spec.ConfidentialType) : Json :=
  .obj [("confidentialInstanceType", .str t.word)]

end Protection

end VmLaunch
