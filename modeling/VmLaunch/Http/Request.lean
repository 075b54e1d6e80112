import VmLaunch.Http.Response
import VmLaunch.Text.Blank
import VmLaunch.Url.Read

/-!
# Requests

An endpoint is the root below which the provider's resources lie. A client turns
each call into one request: the resource's address, a bearer token and, for a post,
the payload.
-/

namespace VmLaunch

/-- The root of the provider's resources. -/
structure Endpoint where
  root : Url
  deriving DecidableEq, Inhabited

/-- Why there is no address to send to. -/
inductive EndpointError where
  | badRoot (text : String)
  | badPath (path : String)
  deriving DecidableEq, Inhabited

/-- The wording of an error. -/
def EndpointError.message : EndpointError → String
  | .badRoot text => "Invalid API base URL: " ++ text
  | .badPath path => "Invalid resource path: " ++ path

namespace Endpoint

/-- Where the provider serves the public. -/
def publicRoot : String := "https://compute.googleapis.com/compute/v1/"

/-- A root ends with a slash, so that paths lie below it. -/
def rootText (text : String) : String :=
  if text.toList.getLast? == some '/' then text else text ++ "/"

/-- The endpoint with a given root. -/
def ofText (text : String) : Except EndpointError Endpoint :=
  match Url.parse? (rootText text) with
  | some root => .ok ⟨root⟩
  | none => .error (.badRoot text)

/-- The address of a resource. Slashes at the head of its path do not count. -/
def resource (endpoint : Endpoint) (path : String) : Except EndpointError Url :=
  match endpoint.root.join? (String.ofList (path.toList.dropWhile (· == '/'))) with
  | some url => .ok url
  | none => .error (.badPath path)

end Endpoint

/-- A request: a post when it has a payload. -/
structure HttpRequest where
  url : Url
  token : String
  payload : Option Json
  deriving Inhabited

namespace HttpRequest

/-- The method of a request. -/
def method (request : HttpRequest) : String :=
  if request.payload.isSome then "POST" else "GET"

/-- How the client names itself. -/
def userAgent : String := "gce-provisioner/0.1.0"

/-- The header fields that a client sets. The value of a field does not end in blanks. -/
def headers (request : HttpRequest) : List (String × String) :=
  [("authorization", Text.trim ("Bearer " ++ request.token)), ("user-agent", userAgent)] ++
    if request.payload.isSome then [("content-type", "application/json")] else []

end HttpRequest

/-- Where to send calls and with which token. -/
structure Client where
  endpoint : Endpoint
  token : String
  deriving DecidableEq, Inhabited

namespace Client

/-- Whether a text may stand in a header field. -/
def isHeaderText (s : String) : Bool :=
  s.toList.all fun c => c == '\t' || (32 ≤ c.toNat && c.toNat != 127)

/-- The fault of a request that did not get through. -/
def unsent : Fault :=
  .of "Failed to send request"

/-- A request to an address, when requests can be sent there. -/
def requestTo (client : Client) (payload : Option Json) (url : Url) : Except Fault HttpRequest :=
  if (url.scheme == "http" || url.scheme == "https") && isHeaderText client.token then
    .ok ⟨url, client.token, payload⟩
  else .error unsent

/-- A request to a resource. -/
def requestResource (client : Client) (payload : Option Json) (path : String) :
    Except Fault HttpRequest :=
  match client.endpoint.resource path with
  | .ok url => client.requestTo payload url
  | .error cause => .error (.of cause.message)

/-- The request of a call. -/
def request (client : Client) : Call → Except Fault HttpRequest
  | .get path => client.requestResource none path
  | .post path payload => client.requestResource (some payload) path
  | .getUrl text =>
    match Url.parse? text with
    | some url => client.requestTo none url
    | none => .error unsent

/-- Make a call over a transport, which gives no response when it does not reach the
server. A response that is not an answer counts as none. -/
def send (client : Client) (transport : HttpRequest → Option HttpResponse) (call : Call) : Answer :=
  match client.request call with
  | .error fault => .error fault
  | .ok request =>
    match transport request with
    | some response =>
      if Status.isFinal response.status then response.answer else .error unsent
    | none => .error unsent

end Client

end VmLaunch
