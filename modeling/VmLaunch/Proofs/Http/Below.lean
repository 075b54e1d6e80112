import VmLaunch.Proofs.Http.Origin
import VmLaunch.Proofs.Url.Descent

/-!
# Resources below a root

A resource whose path goes down lies below the root of its endpoint: its address is written as that
of the root and the path behind it. The root keeps all of the text that it is read from, with a
slash at its end whether that text has one or not.
-/

namespace VmLaunch.Endpoint

/-- The text of a root is some text and a slash. -/
theorem exists_rootText_eq (base : String) :
    ∃ front, rootText base = String.ofList (front ++ ['/']) ∧
      (base = String.ofList front ∨ base = String.ofList (front ++ ['/'])) := by
  unfold rootText
  by_cases slash : base.toList.getLast? = some '/'
  · obtain ⟨front, whole⟩ := List.getLast?_eq_some_iff.mp slash
    have same : base = String.ofList (front ++ ['/']) := by rw [← whole, String.ofList_toList]
    exact ⟨front, by rw [if_pos (beq_iff_eq.mpr slash), same], .inr same⟩
  · refine ⟨base.toList, ?_, .inl String.ofList_toList.symm⟩
    rw [if_neg (by simpa using slash), String.ofList_append, String.ofList_toList]

/-- A text is taken for an endpoint when its root can be read. -/
theorem ofText_eq_ok_iff {text : String} {endpoint : Endpoint} :
    ofText text = .ok endpoint ↔ Url.parse? (rootText text) = some endpoint.root := by
  refine ⟨parse?_of_ofText, fun read => ?_⟩
  unfold ofText
  rw [read]

/-- A slash that is put behind a text makes no difference. -/
theorem rootText_slash {text : String} (last : text.toList.getLast? ≠ some '/') :
    rootText text = text ++ "/" ∧ rootText (text ++ "/") = text ++ "/" := by
  refine ⟨if_neg (by simpa using last), if_pos ?_⟩
  rw [String.toList_append, beq_iff_eq]
  exact List.getLast?_concat

/-- Slashes before a path that goes down do not count. -/
theorem dropWhile_slashes (descent : Url.Descent) (slashes : Nat) :
    String.ofList ((String.ofList (List.replicate slashes '/') ++ descent.text).toList.dropWhile
      (· == '/')) = descent.text := by
  rw [String.toList_append, String.toList_ofList,
    List.dropWhile_append_of_pos fun c member => beq_iff_eq.mpr (List.eq_of_mem_replicate member),
    Url.dropWhile_of_head descent.head_ne_slash, String.ofList_toList]

/-- Every resource whose path goes down is at the address of the root with the path behind it. The
root ends with a slash, be it put there or not, and is otherwise the address of its text. -/
theorem resource_below {base : String} {endpoint : Endpoint} (opened : ofText base = .ok endpoint)
    (web : endpoint.root.scheme = "http" ∨ endpoint.root.scheme = "https")
    (noQuery : endpoint.root.query = none) (noFragment : endpoint.root.fragment = none) :
    (∀ (descent : Url.Descent) (slashes : Nat), ∃ url,
      endpoint.resource (String.ofList (List.replicate slashes '/') ++ descent.text) = .ok url ∧
        url.text = endpoint.root.text ++ descent.text) ∧
    endpoint.root.text.toList.getLast? = some '/' ∧
    (∀ bare : String, bare.toList.getLast? ≠ some '/' → (base = bare ∨ base = bare ++ "/") →
      ofText bare = .ok endpoint ∧ ofText (bare ++ "/") = .ok endpoint) ∧
    ((∀ c ∈ base.toList.getLast?, Url.isMargin c = false) →
      ∃ url, Url.parse? base = some url ∧
        (endpoint.root.text = url.text ∨ endpoint.root.text = url.text ++ "/")) := by
  have special : Url.isSpecial endpoint.root.scheme = true := by
    rcases web with scheme | scheme <;> rw [scheme] <;> decide
  have noFile : endpoint.root.scheme ≠ "file" := by
    rcases web with scheme | scheme <;> rw [scheme] <;> decide
  have read := parse?_of_ofText opened
  obtain ⟨front, text, bare⟩ := exists_rootText_eq base
  rw [text] at read
  obtain ⟨plain, opens, parsed⟩ :=
    Url.opens_of_parse? special noFile noQuery noFragment read
  obtain ⟨authority, served⟩ := opens.served
  obtain ⟨-, path, -, divided, -⟩ := opens.path
  refine ⟨fun descent slashes => ?_, opens.getLast?_text noQuery noFragment, ?_, fun last => ?_⟩
  · refine ⟨_, ?_, descent.text_below served divided noQuery noFragment⟩
    unfold resource
    rw [dropWhile_slashes, descent.join?_eq noFile divided noQuery]
  · intro bare last same
    obtain ⟨plainly, again⟩ := rootText_slash last
    have root : rootText base = bare ++ "/" := by
      rcases same with rfl | rfl
      · exact plainly
      · exact again
    rw [ofText_eq_ok_iff, ofText_eq_ok_iff, plainly, again, ← root]
    exact ⟨parse?_of_ofText opened, parse?_of_ofText opened⟩
  · rcases bare with same | same
    · rw [same] at last ⊢
      rw [String.toList_ofList] at last
      exact ⟨plain, parsed last, opens.text_eq noQuery noFragment⟩
    · rw [same]
      exact ⟨endpoint.root, read, .inl rfl⟩

/-- A root with a version in its path. -/
def versionedEndpoint : Endpoint :=
  ⟨{ scheme := "https", authority := some { host := "example.test" },
     path := .segments ["compute", "v1", ""] }⟩

/-- A page of the instances of a zone. -/
def instancesPage : Url.Descent where
  segments := ["projects", "my-project", "zones", "us-central1-a", "instances"]
  query := some "t=%26"
  down := by
    simp only [List.forall_mem_cons, List.not_mem_nil, false_implies, implies_true]
    decide +kernel
  spelled text asked := by
    cases asked
    exact ⟨_, .plain rfl (.plain rfl (.escape rfl rfl .nil))⟩

/-- The version is kept, whether a slash follows it or not. -/
theorem resource_below_instancesPage :
    ofText "https://example.test/compute/v1" = .ok versionedEndpoint ∧
      ofText "https://example.test/compute/v1/" = .ok versionedEndpoint ∧
      ∃ url, versionedEndpoint.resource
          "/projects/my-project/zones/us-central1-a/instances?t=%26" = .ok url ∧
        url.text = "https://example.test/compute/v1/" ++
          "projects/my-project/zones/us-central1-a/instances?t=%26" := by
  have opened : ofText "https://example.test/compute/v1" = .ok versionedEndpoint := by
    decide +kernel
  obtain ⟨below, -, slash, -⟩ := resource_below opened (.inr rfl) rfl rfl
  obtain ⟨url, found, text⟩ := below instancesPage 1
  have path : String.ofList (List.replicate 1 '/') ++ instancesPage.text =
      "/projects/my-project/zones/us-central1-a/instances?t=%26" := by decide
  have root : versionedEndpoint.root.text = "https://example.test/compute/v1/" := by
    decide +kernel
  have behind : instancesPage.text = "projects/my-project/zones/us-central1-a/instances?t=%26" := by
    decide
  refine ⟨opened, (slash _ (by decide) (.inl rfl)).2, url, ?_, ?_⟩
  · rw [← path]
    exact found
  · rw [text, root, behind]

end VmLaunch.Endpoint
