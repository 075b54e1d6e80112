import VmLaunch.Http.Status
import VmLaunch.Json.Written
import VmLaunch.Provider.World

/-!
# Responses

A served request yields the JSON value of its body, an empty body counting as
`null`. Any other response is a fault that names the status and, when the body is
an error envelope, the provider's own message.
-/

namespace VmLaunch

/-- What a server sent back. -/
structure HttpResponse where
  status : Nat
  body : String
  deriving DecidableEq, Inhabited

/-- What the provider says about a failure: a message that is not empty, or else the
reason of the first detail. -/
def Json.failureText? (envelope : Json) : Option String :=
  match envelope.get? "error" with
  | none => none
  | some error =>
    match (error.get? "message").bind Json.text? with
    | some "" | none =>
      let details := ((error.get? "errors").bind Json.items?).getD []
      details.head?.bind fun detail => (detail.get? "reason").bind Json.text?
    | some message => some message

/-- What the body of a failed request says. -/
def failureText? (body : String) : Option String :=
  (Json.parse? body).bind Json.failureText?

namespace HttpResponse

/-- The body that reaches the caller. -/
def content (response : HttpResponse) : String :=
  if Status.isBodiless response.status then "" else response.body

/-- The fault of a request that was not served. -/
def fault (response : HttpResponse) : Fault :=
  let status := "API request failed: " ++ Status.text response.status
  match failureText? response.content with
  | some message => .of (status ++ " - " ++ message)
  | none => .of status

/-- What the caller gets. -/
def answer (response : HttpResponse) : Answer :=
  if !Status.isSuccess response.status then .error response.fault
  else if response.content == "" then .ok .null
  else
    match Json.parse? response.content with
    | some value => .ok value
    | none => .error (.of "Failed to parse response JSON")

/-- The longest head of a text that fits a number of UTF-8 bytes. -/
def clip : Nat → List Char → List Char
  | _, [] => []
  | limit, c :: rest => if c.utf8Size ≤ limit then c :: clip (limit - c.utf8Size) rest else []

/-- The number of bytes of a body that a log line may show. -/
def logLimit : Nat := 200

/-- Whether a character may stand in a log line. -/
def isLoggable (c : Char) : Bool :=
  32 ≤ c.toNat && c.toNat ≤ 126

/-- A body as a log line shows it. -/
def logText (body : String) : String :=
  let shown :=
    if body.utf8ByteSize ≤ logLimit then body
    else
      String.ofList (clip logLimit body.toList) ++
        "... [truncated, " ++ toString body.utf8ByteSize ++ " bytes total]"
  String.ofList (shown.toList.filter isLoggable)

/-- The line that an answer to a request that was not served adds to the log. -/
def logLine? (response : HttpResponse) : Option String :=
  if Status.isSuccess response.status || !Status.isFinal response.status then none
  else some ("API error: " ++ Status.text response.status ++ " - " ++ logText response.content)

end HttpResponse

end VmLaunch
