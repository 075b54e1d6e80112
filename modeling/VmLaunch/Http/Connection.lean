import VmLaunch.Http.Request

/-!
# Connections

A connection joins a client with the project that it works in. A project that is
not given is that of the credentials.
-/

namespace VmLaunch

/-- The credentials of a service account. -/
structure Credentials where
  project : Option String
  token : String
  deriving DecidableEq, Inhabited

/-- The credentials that the key file of a service account stands for, with a token
that was obtained for it. -/
def Credentials.ofKeyFile? (token text : String) : Option Credentials :=
  match Json.parse? text with
  | none => none
  | some key =>
    let field? (name : String) : Option String := (key.get? name).bind Json.text?
    if (field? "client_email").isSome && (field? "private_key").isSome &&
        (field? "token_uri").isSome then
      some ⟨field? "project_id", token⟩
    else none

/-- Why there is no connection. -/
inductive ConnectError where
  | noCredentials
  | endpoint (cause : EndpointError)
  | noProject
  deriving DecidableEq, Inhabited

/-- The wording of an error. -/
def ConnectError.message : ConnectError → String
  | .noCredentials => "Failed to initialize GCP credentials"
  | .endpoint cause => cause.message
  | .noProject => "No GCP project configured. Set GOOGLE_CLOUD_PROJECT or use --project flag"

/-- A client and the project that it works in. -/
structure Connection where
  client : Client
  project : String
  deriving DecidableEq, Inhabited

namespace Connection

/-- The given project, or that of the credentials when none is given. -/
def projectOr (project : String) (credentials : Credentials) : String :=
  if project == "" then credentials.project.getD "" else project

/-- Connect to an endpoint with credentials. -/
def establish (credentials : Option Credentials) (project root : String) :
    Except ConnectError Connection :=
  match credentials with
  | none => .error .noCredentials
  | some credentials =>
    match Endpoint.ofText root with
    | .ok endpoint => .ok ⟨⟨endpoint, credentials.token⟩, projectOr project credentials⟩
    | .error cause => .error (.endpoint cause)

/-- The connection, when it has a project. -/
def withProject (connection : Connection) : Except ConnectError Connection :=
  if connection.project == "" then .error .noProject else .ok connection

end Connection

end VmLaunch
