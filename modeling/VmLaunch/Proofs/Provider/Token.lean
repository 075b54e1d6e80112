import VmLaunch.Proofs.Provider.Circle
import VmLaunch.Proofs.Text.Escape
import VmLaunch.Proofs.Text.Pieces
import VmLaunch.Proofs.Url.Parts

/-!
# Tokens in paths

The path of a page is that of its list with one more parameter in the query. Whatever characters
the token has, the value of the parameter spells its bytes, and the parameters before it stay.
-/

namespace VmLaunch.Page

/-- A path cut at its query; a fragment belongs to neither part. -/
def queryParts (path : String) : List Char × Option (List Char) :=
  Url.cutAt '?' (Url.cutAt '#' path.toList).1

/-- What a path says before its query. -/
def resource (path : String) : List Char :=
  (queryParts path).1

/-- The parameters of a path, each as it is written. -/
def parameters (path : String) : List (List Char) :=
  match (queryParts path).2 with
  | some query => Text.splitOn '&' query
  | none => []

/-- The parameter of a token is written with a text that spells the bytes of the token. -/
structure Carries (parameter : List Char) (token : String) (text : List Char) : Prop where
  named : Url.cutAt '=' parameter = ("pageToken".toList, some text)
  spells : Percent.Spells Percent.isUnreserved text token.toUTF8.toList
  decoded : Percent.decode? (String.ofList text) = some token

/-- A text that spells bytes has no mark that ends or divides a query. -/
theorem not_mem_of_spells {text : List Char} {bytes : List UInt8}
    (spells : Percent.Spells Percent.isUnreserved text bytes) {mark : Char}
    (divides : mark ∈ ['#', '?', '&', '=']) : mark ∉ text := by
  intro member
  have marks : ∀ mark ∈ ['#', '?', '&', '='],
      Percent.isUnreserved mark = false ∧ mark ≠ '%' ∧ mark.isAlphanum = false := by
    simp only [List.forall_mem_cons, List.not_mem_nil, false_implies, implies_true]
    decide
  have plain := marks mark divides
  rcases spells.cases_mem member with kept | percent | ⟨value, digit⟩
  · rw [plain.1] at kept
    cases kept
  · exact plain.2.1 percent
  · have letter := Percent.isAlphanum_of_hexValue? digit
    rw [plain.2.2] at letter
    cases letter

/-- The query of a path with one more parameter. -/
theorem queryParts_snoc {path : String} {parameter : List Char} (whole : '#' ∉ path.toList)
    (tail : '#' ∉ parameter) {longer : String}
    (longer_eq : longer.toList =
      path.toList ++ (if '?' ∈ path.toList then '&' else '?') :: parameter) :
    queryParts longer =
      ((queryParts path).1, some (match (queryParts path).2 with
        | some query => query ++ '&' :: parameter
        | none => parameter)) := by
  have before : '#' ∉ longer.toList := by
    rw [longer_eq]
    split <;> simp [whole, tail]
  rw [queryParts, queryParts, Url.cutAt_of_not_mem before, Url.cutAt_of_not_mem whole, longer_eq]
  by_cases queried : '?' ∈ path.toList
  · obtain ⟨front, back, parts, absent⟩ := List.eq_append_cons_of_mem queried
    rw [if_pos queried, parts, List.append_assoc, List.cons_append, Url.cutAt_append_cons absent,
      Url.cutAt_append_cons absent]
  · rw [if_neg queried, Url.cutAt_append_cons queried, Url.cutAt_of_not_mem queried]

/-- The path of a page is that of its list and one more parameter, which carries the token; what
the list's path has of a query stays as it is, and different tokens have different paths. -/
theorem path_carries (list token : String) (whole : '#' ∉ list.toList) :
    ∃ parameter text, Carries parameter token text ∧
      (path list (some token)).toList =
        list.toList ++ (if '?' ∈ list.toList then '&' else '?') :: parameter ∧
      resource (path list (some token)) = resource list ∧
      parameters (path list (some token)) = parameters list ++ [parameter] ∧
      ∀ other, path list (some other) = path list (some token) → other = token := by
  have kept : ∀ b, isUnreserved b = true →
      Percent.isUnreserved (Char.ofNat b.toNat) = true := by
    intro b
    have each : ∀ n : Fin 256, isUnreserved (UInt8.ofNat n) = true →
        Percent.isUnreserved (Char.ofNat n) = true := by decide +kernel
    have found := each ⟨b.toNat, b.toNat_lt⟩
    rwa [UInt8.ofNat_toNat] at found
  have spells := Percent.spells_encodeChars kept token
  have longer : (path list (some token)).toList =
      list.toList ++ (if '?' ∈ list.toList then '&' else '?') ::
        ("pageToken=".toList ++ Percent.encodeChars isUnreserved token) := by
    by_cases queried : '?' ∈ list.toList <;>
      simp [path, Text.hasChar, queried, encodeQueryValue, Percent.encode]
  have clean : ∀ mark ∈ ['#', '&'],
      mark ∉ "pageToken=".toList ++ Percent.encodeChars isUnreserved token := by
    intro mark divides
    rw [List.mem_append, not_or]
    refine ⟨?_, not_mem_of_spells spells (List.Sublist.subset (by decide) divides)⟩
    rcases List.mem_pair.mp divides with rfl | rfl <;> decide
  have named : Url.cutAt '=' ("pageToken=".toList ++ Percent.encodeChars isUnreserved token) =
      ("pageToken".toList, some (Percent.encodeChars isUnreserved token)) :=
    Url.cutAt_append_cons (show '=' ∉ "pageToken".toList by decide) _
  have parts := queryParts_snoc whole (clean '#' (by simp)) longer
  refine ⟨_, _, ⟨named, spells, spells.decode?_eq rfl fun _ => Percent.ascii_of_isUnreserved⟩,
    longer, ?_, ?_, fun other same => ?_⟩
  · rw [resource, parts, resource]
  · rw [parameters, parts, parameters]
    cases (queryParts list).2 with
    | some query =>
      simp only
      rw [Text.splitOn_append_cons, Text.splitOn_of_not_mem (clean '&' (by simp))]
    | none => exact Text.splitOn_of_not_mem (clean '&' (by simp))
  · exact Option.some.inj (path_injective same)

/-- A token with the marks of a query is one parameter behind those of a filtered list. -/
theorem path_carries_filteredImages :
    '#' ∉ "projects/p/global/images?filter=x".toList ∧
      path "projects/p/global/images?filter=x" (some "a&b=é#") =
        "projects/p/global/images?filter=x&pageToken=a%26b%3D%C3%A9%23" ∧
      ∃ parameter text, Carries parameter "a&b=é#" text ∧
        parameters (path "projects/p/global/images?filter=x" (some "a&b=é#")) =
          ["filter=x".toList, parameter] := by
  have whole : '#' ∉ "projects/p/global/images?filter=x".toList := by decide
  obtain ⟨parameter, text, carries, -, -, added, -⟩ := path_carries _ "a&b=é#" whole
  exact ⟨whole, by decide +kernel, parameter, text, carries, added⟩

end VmLaunch.Page
