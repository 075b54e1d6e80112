import VmLaunch.Text.Percent
import VmLaunch.Text.Pieces

/-!
# URLs

A `Url` retains the parts of an absolute address in their written form: what has
to be escaped is escaped already. A path is either a list of segments, each after
a slash, or one text that is not divided. `Url.text` writes the address out.
-/

namespace VmLaunch

/-- Who serves a resource, and as whom it is asked. -/
structure Authority where
  user : String := ""
  password : String := ""
  host : String
  port : Option Nat := none
  deriving DecidableEq, Inhabited

/-- Where a resource lies. -/
inductive UrlPath where
  | whole (text : String)
  | segments (items : List String)
  deriving DecidableEq, Inhabited

/-- An absolute address. -/
structure Url where
  scheme : String
  authority : Option Authority
  path : UrlPath
  query : Option String := none
  fragment : Option String := none
  deriving DecidableEq, Inhabited

/-- What decides which server is meant. -/
structure Origin where
  scheme : String
  host : Option String
  port : Option Nat
  deriving DecidableEq, Inhabited

namespace Url

/-- The port that a scheme implies. -/
def defaultPort? (scheme : String) : Option Nat :=
  if scheme == "http" || scheme == "ws" then some 80
  else if scheme == "https" || scheme == "wss" then some 443
  else if scheme == "ftp" then some 21
  else none

/-- Whether a scheme is one of those whose addresses always have a host and a path. -/
def isSpecial (scheme : String) : Bool :=
  scheme == "file" || (defaultPort? scheme).isSome

/-- The server that an address means. -/
def origin (url : Url) : Origin where
  scheme := url.scheme
  host := url.authority.map Authority.host
  port :=
    match url.authority.bind Authority.port with
    | some port => some port
    | none => defaultPort? url.scheme

end Url

/-- User and password as they stand before the host. -/
def Authority.credentials (a : Authority) : String :=
  let password := if a.password == "" then "" else ":" ++ a.password
  if a.user == "" && a.password == "" then "" else a.user ++ password ++ "@"

/-- The text of an authority. -/
def Authority.text (a : Authority) : String :=
  a.credentials ++ a.host ++
    match a.port with
    | some port => ":" ++ toString port
    | none => ""

/-- The text of a path. -/
def UrlPath.text : UrlPath → String
  | .whole text => text
  | .segments items => String.join (items.map fun item => "/" ++ item)

/-- What stands between the scheme and the path. An empty first segment must not be
taken for the slashes of an authority. -/
def Url.beforePath (url : Url) : String :=
  match url.authority, url.path with
  | some authority, _ => "//" ++ authority.text
  | none, .segments ("" :: _ :: _) => "/."
  | none, _ => ""

/-- A part after its mark, when there is one. -/
def Url.marked (mark : String) : Option String → String
  | some text => mark ++ text
  | none => ""

/-- The path and query, by which a server is asked for a resource. -/
def Url.target (url : Url) : String :=
  url.path.text ++ Url.marked "?" url.query

/-- The text of an address. -/
def Url.text (url : Url) : String :=
  url.scheme ++ ":" ++ url.beforePath ++ url.target ++ Url.marked "#" url.fragment

end VmLaunch
