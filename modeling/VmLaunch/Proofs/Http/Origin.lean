import VmLaunch.Http.Request
import VmLaunch.Proofs.Reference
import VmLaunch.Proofs.Url.Origin

/-!
# Where requests go

A client sends its token along with every request. The slashes at the head of a path do not count,
so that it lies below the root of the endpoint, but a scheme and backslashes do, and so do slashes
behind characters that are dropped. A reference that is kept as it stands may therefore lead to
another server; the paths that are made from names do not.
-/

namespace VmLaunch

namespace Endpoint

/-- The server that the path of a resource names itself. -/
def named? (endpoint : Endpoint) (path : String) : Option Origin :=
  endpoint.root.named? (String.ofList (path.toList.dropWhile (· == '/')))

/-- Where the requests of an endpoint's clients go. -/
structure Addresses (endpoint : Endpoint) : Prop where
  /-- A resource is at the server that its path names, and at that of the root when it names
  none. -/
  resource : ∀ path url, endpoint.resource path = .ok url →
    url.origin = (endpoint.named? path).getD endpoint.root.origin
  /-- The token of a call is sent to the server of the root exactly when the path names no other. -/
  sent : ∀ token call path request, call = .get path ∨ (∃ payload, call = .post path payload) →
    Client.request ⟨endpoint, token⟩ call = .ok request →
      request.token = token ∧
        (request.url.origin = endpoint.root.origin ↔
          ∀ server, endpoint.named? path = some server → server = endpoint.root.origin)
  /-- Paths below the projects name no server. -/
  projects : ∀ path, "projects/".toList <+: path.toList.dropWhile (· == '/') →
    endpoint.named? path = none
  /-- Other paths may name one only by a colon, a backslash or what is dropped from a text, unless
  the root is a file. -/
  plain : endpoint.root.scheme ≠ "file" → ∀ path,
    (∀ c ∈ path.toList, c ≠ ':' ∧ c ≠ '\\' ∧ Url.isMargin c = false) →
      endpoint.named? path = none
  /-- An image family names a server only by a reference with a separator. -/
  family : ∀ family project, endpoint.named? (imageFamilyPath family project) =
    if '/' ∈ family.toList then endpoint.named? family else none
  /-- So does a subnetwork. -/
  subnetwork : ∀ subnetwork project region,
    endpoint.named? (subnetworkPath subnetwork project region) =
      if '/' ∈ subnetwork.toList then endpoint.named? subnetwork else none

/-- The root of an endpoint is read from its text. -/
theorem parse?_of_ofText {root : String} {endpoint : Endpoint}
    (opened : ofText root = .ok endpoint) :
    Url.parse? (rootText root) = some endpoint.root := by
  unfold ofText at opened
  split at opened
  next read =>
    cases opened
    exact read
  next => cases opened

/-- A resource is joined to the root behind its leading separators. -/
theorem join?_of_resource {endpoint : Endpoint} {path : String} {url : Url}
    (found : endpoint.resource path = .ok url) :
    endpoint.root.join? (String.ofList (path.toList.dropWhile (· == '/'))) = some url := by
  unfold resource at found
  split at found
  next joined =>
    cases found
    exact joined
  next => cases found

/-- A request goes to the address of its resource and takes the token with it. -/
theorem resource_of_request {client : Client} {payload : Option Json} {path : String}
    {request : HttpRequest} (made : client.requestResource payload path = .ok request) :
    client.endpoint.resource path = .ok request.url ∧ request.token = client.token := by
  unfold Client.requestResource at made
  split at made
  next url found =>
    unfold Client.requestTo at made
    split at made
    next =>
      cases made
      exact ⟨found, rfl⟩
    next => cases made
  next => cases made

/-- A path that begins with the projects names no server of its own. -/
theorem named?_of_projects (endpoint : Endpoint) {path : String}
    (begins : "projects/".toList <+: path.toList.dropWhile (· == '/')) :
    endpoint.named? path = none :=
  Url.named?_of_projects endpoint.root (by simpa using begins)

/-- A path without colons, backslashes and characters that are dropped names no server, as the
slashes at its head do not count. -/
theorem named?_of_plain {endpoint : Endpoint} (noFile : endpoint.root.scheme ≠ "file")
    {path : String}
    (plain : ∀ c ∈ path.toList, c ≠ ':' ∧ c ≠ '\\' ∧ Url.isMargin c = false) :
    endpoint.named? path = none := by
  have behind : ∀ c ∈ path.toList.dropWhile (· == '/'),
      c ≠ ':' ∧ c ≠ '\\' ∧ Url.isMargin c = false := fun c member =>
    plain c ((List.dropWhile_sublist _).subset member)
  have noSlash : ∀ c ∈ (path.toList.dropWhile (· == '/')).head?, Url.isSlash true c = false := by
    intro c first
    have stops := List.head?_dropWhile_not (· == '/') path.toList
    rw [Option.mem_def.mp first] at stops
    have other := (behind c (List.mem_of_mem_head? first)).2.1
    simpa [Url.isSlash, other] using stops
  refine Url.named?_of_plain noFile ?_ ?_ ?_ <;> rw [String.toList_ofList]
  · exact fun c member => (behind c member).2.2
  · exact fun colon => (behind ':' colon).1 rfl
  · exact noSlash

/-- The path of a reference names the server that the reference names when it is kept as it
stands, and else none, as it lies below the projects. -/
theorem named?_qualify (endpoint : Endpoint) {parent : String}
    (below : "projects/".toList <+: parent.toList) (text : String) :
    endpoint.named? (qualify parent text) =
      if '/' ∈ text.toList then endpoint.named? text else none := by
  by_cases separated : '/' ∈ text.toList
  · rw [if_pos separated, qualify_of_mem separated]
  · rw [if_neg separated, qualify_of_not_mem separated]
    have begins : "projects/".toList <+: (parent ++ "/" ++ Text.trim text).toList := by
      rw [String.toList_append, String.toList_append, List.append_assoc]
      exact below.trans (List.prefix_append parent.toList _)
    exact endpoint.named?_of_projects (Url.prefix_dropWhile (by simp) begins)

/-- Every endpoint, whatever its root, is left only by paths that name a server. -/
theorem addresses_of_ofText {root : String} {endpoint : Endpoint}
    (opened : ofText root = .ok endpoint) : endpoint.Addresses := by
  have resource : ∀ path url, endpoint.resource path = .ok url →
      url.origin = (endpoint.named? path).getD endpoint.root.origin := fun path url found =>
    Url.origin_of_join? (Url.fileServed_of_parse? (parse?_of_ofText opened))
      (join?_of_resource found)
  refine ⟨resource, ?sent, fun _ => endpoint.named?_of_projects,
    fun noFile _ => named?_of_plain noFile, ?family, ?subnetwork⟩
  case sent =>
    intro token call path request kind made
    have sends : ∃ payload, Client.requestResource ⟨endpoint, token⟩ payload path = .ok request := by
      rcases kind with rfl | ⟨payload, rfl⟩
      · exact ⟨none, made⟩
      · exact ⟨some payload, made⟩
    obtain ⟨payload, made⟩ := sends
    obtain ⟨found, same⟩ := resource_of_request made
    refine ⟨same, ?_⟩
    rw [resource path request.url found]
    cases endpoint.named? path <;> simp
  case family =>
    intro family project
    exact endpoint.named?_qualify (by simp [globalParent]) family
  case subnetwork =>
    intro subnetwork project region
    exact endpoint.named?_qualify (by simp [regionParent]) subnetwork

/-- The endpoint at which the public is served. -/
def publicEndpoint : Endpoint :=
  ⟨{ scheme := "https", authority := some { host := "compute.googleapis.com" },
     path := .segments ["compute", "v1", ""] }⟩

/-- The public root is that of the public endpoint. -/
theorem ofText_publicRoot : ofText publicRoot = .ok publicEndpoint := by
  decide +kernel

/-- What lies below the projects is asked of the public root. -/
theorem addresses_of_ofText_publicRoot :
    ofText publicRoot = .ok publicEndpoint ∧
      ∃ url, publicEndpoint.resource "projects/p/zones" = .ok url ∧
        url.origin = publicEndpoint.root.origin := by
  have found : publicEndpoint.resource "projects/p/zones" =
      .ok { publicEndpoint.root with
        path := .segments ["compute", "v1", "projects", "p", "zones"] } := by
    decide +kernel
  refine ⟨ofText_publicRoot, _, found, ?_⟩
  have addresses := addresses_of_ofText ofText_publicRoot
  rw [addresses.resource _ _ found, addresses.projects _ (by decide)]
  rfl

/-- A reference that leads to another server. -/
def strayFamily : String :=
  "\\\\evil.example/global/images/family/debian-12"

/-- Where it leads. -/
def strayUrl : Url where
  scheme := "https"
  authority := some { host := "evil.example" }
  path := .segments ["global", "images", "family", "debian-12"]

/-- The look-up of an image family may send the token to another server. -/
theorem not_always_at_home :
    ofText publicRoot = .ok publicEndpoint ∧
      publicEndpoint.resource (imageFamilyPath strayFamily "p") = .ok strayUrl ∧
      Client.request ⟨publicEndpoint, "secret"⟩ (.get (imageFamilyPath strayFamily "p")) =
        .ok ⟨strayUrl, "secret", none⟩ ∧
      strayUrl.origin ≠ publicEndpoint.root.origin := by
  have found : publicEndpoint.resource (imageFamilyPath strayFamily "p") = .ok strayUrl := by
    decide +kernel
  refine ⟨ofText_publicRoot, found, ?_, by decide⟩
  unfold Client.request Client.requestResource
  simp only
  rw [found]
  exact if_pos (by decide)

end Endpoint

end VmLaunch
