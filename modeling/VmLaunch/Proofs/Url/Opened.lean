import VmLaunch.Proofs.Text.Pieces
import VmLaunch.Proofs.Url.Parts

/-!
# Addresses that end with a slash

When a text ends with a slash and has neither query nor fragment, so does the path of its address,
at least under the schemes of servers. A slash behind a text is one behind its address, or none
where the path of the address ends with a slash anyhow.
-/

namespace VmLaunch.Url

section Walks

variable {scheme : String}

/-- A path is open when its last segment is empty. -/
theorem isOpen_iff {path : List String} : isOpen path = true ↔ ∃ front, path = front ++ [""] := by
  rw [isOpen, beq_iff_eq, List.getLast?_eq_some_iff]

/-- A path that was opened is open. -/
theorem isOpen_opened (path : List String) : isOpen (opened path) = true :=
  isOpen_iff.mpr ⟨path, rfl⟩

/-- Before another segment a path ends with a slash. -/
theorem Walk.isOpen_go (w : Walk) (segment : List Char) :
    isOpen (w.go scheme false segment).path = true := by
  have open_or : ∀ path : List String,
      isOpen (if isOpen path = true then path else opened path) = true := by
    intro path
    split
    · assumption
    · exact isOpen_opened path
  unfold Walk.go
  split
  · exact open_or _
  split
  · exact open_or _
  · exact isOpen_opened _

/-- The empty segment behind the last slash adds nothing. -/
theorem Walk.go_nil {w : Walk} (opens : isOpen w.path = true) : w.go scheme true [] = w := by
  obtain ⟨front, path⟩ := isOpen_iff.mp opens
  have up : isUp [] = false := rfl
  have here : isHere [] = false := rfl
  have drive : isDriveText [] = false := rfl
  have blank : written keepsInPath [] = "" := by decide +kernel
  have same : extended w.path "" = w.path := by simp [extended, path]
  simp only [Walk.go, up, here, drive, Bool.and_false, Bool.false_eq_true, if_false, blank, same,
    Bool.not_false, Bool.and_true, if_true]

/-- A segment before a slash is gone along as the last one, with a slash behind it or none. -/
theorem Walk.go_before_slash (w : Walk) (segment : List Char) :
    (w.go scheme false segment).path = (w.go scheme true segment).path ∨
      (w.go scheme false segment).path = (w.go scheme true segment).path ++ [""] := by
  unfold Walk.go
  by_cases up : isUp segment
  · simp only [up, if_true, Bool.true_or, Bool.false_or]
    split
    · exact .inl rfl
    · exact .inr rfl
  by_cases here : isHere segment
  · simp only [up, here, if_true]
    exact .inl rfl
  · simp only [up, here]
    exact .inr rfl

/-- A walk goes along a segment and then along those behind it. -/
theorem Walk.along_cons (w : Walk) (segment : List Char) {rest : List (List Char)}
    (more : rest ≠ []) : w.along scheme (segment :: rest) = (w.go scheme false segment).along
      scheme rest := by
  cases rest with
  | nil => exact absurd rfl more
  | cons next others => rfl

/-- A walk whose last segment is empty ends with a slash. -/
theorem Walk.isOpen_along {w : Walk} (opens : isOpen w.path = true) (segments : List (List Char)) :
    isOpen (w.along scheme (segments ++ [[]])).path = true := by
  induction segments generalizing w with
  | nil =>
    change isOpen (w.go scheme true []).path = true
    rwa [go_nil opens]
  | cons segment rest inductionHypothesis =>
    rw [List.cons_append, along_cons _ _ (by simp)]
    exact inductionHypothesis (w.isOpen_go segment)

/-- An empty segment behind others adds a slash or nothing. -/
theorem Walk.along_before_slash (w : Walk) {segments : List (List Char)} (any : segments ≠ []) :
    (w.along scheme (segments ++ [[]])).path = (w.along scheme segments).path ∨
      (w.along scheme (segments ++ [[]])).path = (w.along scheme segments).path ++ [""] := by
  induction segments generalizing w with
  | nil => exact absurd rfl any
  | cons segment rest inductionHypothesis =>
    rw [List.cons_append, along_cons _ _ (by simp)]
    cases rest with
    | nil =>
      have last : (w.go scheme false segment).along scheme ([] ++ [[]]) =
          w.go scheme false segment := go_nil (w.isOpen_go segment)
      rw [last]
      exact w.go_before_slash segment
    | cons next more =>
      rw [along_cons w segment (List.cons_ne_nil next more)]
      exact inductionHypothesis _ (List.cons_ne_nil next more)

/-- A walk leads along the pieces between separators. -/
theorem walk_path (noFile : scheme ≠ "file") (path : List String) (cs : List Char) :
    (walk scheme path cs).path =
      (Walk.along scheme ⟨path, true⟩
        (Text.splitOn '/' (withSlashes (isSpecial scheme) cs))).path := by
  have other : (scheme == "file") = false := beq_eq_false_iff_ne.mpr noFile
  simp only [walk, other, Bool.false_and, Bool.false_eq_true, if_false]

/-- A separator at the end is followed by one more, empty piece. -/
theorem splitOn_slash (special : Bool) (cs : List Char) :
    Text.splitOn '/' (withSlashes special (cs ++ ['/'])) =
      Text.splitOn '/' (withSlashes special cs) ++ [[]] := by
  have slash : withSlashes special ['/'] = ['/'] := by simp [withSlashes]
  rw [withSlashes, List.map_append, ← withSlashes, ← withSlashes, slash, Text.splitOn_append_cons]
  rfl

/-- What follows an authority is a path that ends with a slash when a slash is put behind it, and
no more than that slash is added to the path. -/
theorem rootPath_slash (noFile : scheme ≠ "file") (special : isSpecial scheme = true)
    (cs : List Char) :
    ∃ path front, rootPath scheme cs = .segments path ∧
      rootPath scheme (cs ++ ['/']) = .segments (front ++ [""]) ∧
      (front ++ [""] = path ∨ front ++ [""] = path ++ [""]) := by
  simp only [rootPath, special, if_true, readPath]
  cases cs with
  | nil =>
    have slash : afterSlash true ([] ++ ['/']) = [] := by simp [afterSlash, isSlash]
    have walked : (walk scheme [""] []).path = [""] := by
      rw [walk_path noFile]
      exact congrArg Walk.path (Walk.go_nil rfl)
    rw [slash, afterSlash, walked]
    exact ⟨_, [], rfl, rfl, .inl rfl⟩
  | cons c rest =>
    have slash : afterSlash true (c :: rest ++ ['/']) = afterSlash true (c :: rest) ++ ['/'] := by
      simp only [List.cons_append, afterSlash]
      split <;> rfl
    rw [slash, walk_path noFile, walk_path noFile, splitOn_slash]
    have opens : isOpen (Walk.along scheme ⟨[""], true⟩
        (Text.splitOn '/' (withSlashes (isSpecial scheme) (afterSlash true (c :: rest))) ++
          [[]])).path = true := Walk.isOpen_along rfl _
    obtain ⟨front, same⟩ := isOpen_iff.mp opens
    refine ⟨_, front, rfl, congrArg UrlPath.segments same, ?_⟩
    rw [← same]
    exact Walk.along_before_slash _ (Text.splitOn_ne_nil _ _)

end Walks

section Servers

variable {scheme : String}

/-- A slash behind the characters of a server is one behind its path. -/
theorem Served.of_slash (scheme : String) (cs : List Char) :
    Served.of scheme (cs ++ ['/']) =
      { Served.of scheme cs with rest := (Served.of scheme cs).rest ++ ['/'] } := by
  have server := takeWhile_concat (p := fun c => !isSlash (isSpecial scheme) c) (c := '/') rfl cs
  have rest := dropWhile_concat (p := fun c => !isSlash (isSpecial scheme) c) (c := '/') rfl cs
  simp only [Served.of, server, rest, List.append_assoc]

/-- The authority of a server does not depend on what follows it. -/
theorem Served.authority?_congr (special : isSpecial scheme = true) (s : Served)
    (rest : List Char) (atEnd other : Bool) :
    Served.authority? scheme { s with rest := rest } atEnd = s.authority? scheme other := by
  simp only [Served.authority?, special, Bool.true_or, if_true]

/-- Two addresses of one server, of which the first ends with a slash, and the second with the same
or with none. -/
structure Opens (root url : Url) : Prop where
  served : ∃ authority, root.authority = some authority
  path : ∃ path front, url = { root with path := .segments path } ∧
    root.path = .segments (front ++ [""]) ∧
    (front ++ [""] = path ∨ front ++ [""] = path ++ [""])

/-- A server is read with a slash behind it as without. -/
theorem readServed?_slash (other : List Char) (noFile : scheme ≠ "file")
    (special : isSpecial scheme = true) {cs body : List Char} {root : Url}
    (read : readServed? scheme (cs ++ ['/']) ⟨body, none, none⟩ = some root) :
    ∃ url, readServed? scheme cs ⟨other, none, none⟩ = some url ∧ Opens root url := by
  rw [readServed?, Served.of_slash] at read
  obtain ⟨authority, placed, rfl⟩ := Option.map_eq_some_iff.mp read
  rw [Served.authority?_congr special _ _ _
    ((Served.of scheme cs).rest.isEmpty && Parts.endsWithBody ⟨other, none, none⟩)] at placed
  obtain ⟨path, front, plain, opened, added⟩ :=
    rootPath_slash noFile special (Served.of scheme cs).rest
  refine ⟨_, ?_, ⟨authority, rfl⟩, path, front, rfl, opened, added⟩
  rw [readServed?, placed, Option.map_some, plain]
  rfl

/-- Nothing is no server. -/
theorem readServed?_nil (special : isSpecial scheme = true) (parts : Parts) :
    readServed? scheme [] parts = none := by
  have vacant : Served.of scheme [] = ⟨none, [], none, []⟩ := rfl
  rw [readServed?, vacant, Served.authority?]
  simp [special]

/-- The query and the fragment of an address are those of its text. -/
theorem parts_of_readServed? {cs : List Char} {parts : Parts} {root : Url}
    (read : readServed? scheme cs parts = some root) :
    root.query = parts.queryText scheme ∧ root.fragment = parts.fragmentText := by
  rw [readServed?] at read
  obtain ⟨authority, -, rfl⟩ := Option.map_eq_some_iff.mp read
  exact ⟨rfl, rfl⟩

end Servers

section Addresses

variable {front : List Char}

/-- The characters of a text that count but for those that are dropped at its end. -/
def counted (cs : List Char) : List Char :=
  (cs.dropWhile isMargin).filter fun c => !isLineBreak c

/-- A slash at the end of a text counts, and everything before it but a margin at the head. -/
theorem significant_slash (front : List Char) :
    significant (front ++ ['/']) = counted front ++ ['/'] := by
  have slash : isMargin '/' = false := by decide
  rw [significant, dropWhile_concat slash, List.reverse_append, List.reverse_singleton,
    List.singleton_append, List.dropWhile_cons_of_neg (by simp [slash])]
  simp [counted, isLineBreak]

/-- A text that does not end with a margin loses none there. -/
theorem significant_of_last (last : ∀ c ∈ front.getLast?, isMargin c = false) :
    significant front = counted front := by
  have kept : ∀ c ∈ (front.dropWhile isMargin).reverse.head?, isMargin c = false := by
    intro c first
    rw [List.head?_reverse] at first
    obtain ⟨before, whole⟩ := List.dropWhile_suffix isMargin (l := front)
    refine last c ?_
    rw [← whole, List.getLast?_append, Option.mem_def.mp first]
    rfl
  rw [significant, dropWhile_of_head kept, List.reverse_reverse, counted]

/-- A text without query and fragment is a body alone. -/
theorem parts_eq_of_bare {text : String} (noQuery : (Parts.of text).query = none)
    (noFragment : (Parts.of text).fragment = none) :
    Parts.of text = ⟨significant text.toList, none, none⟩ ∧
      '#' ∉ significant text.toList ∧ '?' ∉ significant text.toList := by
  have uncut : ∀ {mark : Char} {cs : List Char}, (cutAt mark cs).2 = none →
      cutAt mark cs = (cs, none) ∧ mark ∉ cs := by
    intro mark cs absent
    by_cases member : mark ∈ cs
    · obtain ⟨before, after, rfl, first⟩ := List.eq_append_cons_of_mem member
      rw [cutAt_append_cons first] at absent
      cases absent
    · exact ⟨cutAt_of_not_mem member, member⟩
  obtain ⟨whole, noMark⟩ := uncut noFragment
  have single : (cutAt '?' (cutAt '#' (significant text.toList)).1).2 = none := noQuery
  rw [whole] at single
  obtain ⟨body, noQueryMark⟩ := uncut single
  refine ⟨?_, noMark, noQueryMark⟩
  rw [Parts.of, whole]
  simp only [body]

/-- A text without marks is all body. -/
theorem parts_of_plain {text : String} {cs : List Char} (counts : significant text.toList = cs)
    (noMark : '#' ∉ cs) (noQueryMark : '?' ∉ cs) : Parts.of text = ⟨cs, none, none⟩ := by
  rw [Parts.of, counts, cutAt_of_not_mem noMark]
  simp only [cutAt_of_not_mem noQueryMark]

/-- A slash behind an address is behind what follows its scheme. -/
theorem scheme?_slash (body : List Char) :
    scheme? (body ++ ['/']) = (scheme? body).map fun found => (found.1, found.2 ++ ['/']) := by
  have cut : Text.cutChars? ':' (body ++ ['/']) =
      (Text.cutChars? ':' body).map fun found => (found.1, found.2 ++ ['/']) := by
    induction body with
    | nil => rfl
    | cons c rest inductionHypothesis =>
      rw [List.cons_append, Text.cutChars?, Text.cutChars?, inductionHypothesis]
      split
      · rfl
      · cases Text.cutChars? ':' rest <;> rfl
  rw [scheme?, scheme?, cut]
  cases Text.cutChars? ':' body with
  | none => rfl
  | some found =>
    obtain ⟨_ | ⟨first, name⟩, rest⟩ := found
    · rfl
    · simp only [Option.map_some]
      split <;> rfl

variable {root : Url}

/-- A text of a special scheme is read from behind its separators. -/
theorem parse?_of_scheme? {text scheme : String} {rest : List Char}
    (special : isSpecial scheme = true) (noFile : scheme ≠ "file")
    (begins : scheme? (Parts.of text).body = some (scheme, rest)) :
    parse? text = readServed? scheme (rest.dropWhile (isSlash true)) (Parts.of text) := by
  have other : (scheme == "file") = false := beq_eq_false_iff_ne.mpr noFile
  simp only [parse?, begins, readAbsolute?, other, special, Bool.false_eq_true, if_false, if_true]

/-- An address of a server begins with its scheme. -/
theorem scheme?_of_parse? {text : String} (noFile : root.scheme ≠ "file")
    (read : parse? text = some root) :
    ∃ rest, scheme? (Parts.of text).body = some (root.scheme, rest) := by
  unfold parse? at read
  simp only at read
  split at read
  next scheme rest begins =>
    by_cases file : scheme = "file"
    · unfold readAbsolute? at read
      rw [if_pos (beq_iff_eq.mpr file)] at read
      obtain ⟨host, path, rfl⟩ := exists_fileUrl_of_readFile? read
      exact absurd rfl noFile
    · rw [scheme_of_readAbsolute? file read]
      exact ⟨rest, begins⟩
  next => cases read

/-- To drop leading separators spares the one at the end, unless there is nothing else. -/
theorem dropWhile_slash (cs : List Char) :
    (cs ++ ['/']).dropWhile (isSlash true) = [] ∨
      (cs ++ ['/']).dropWhile (isSlash true) = cs.dropWhile (isSlash true) ++ ['/'] := by
  rw [List.dropWhile_append]
  split
  · exact .inl rfl
  · exact .inr rfl

/-- The address of a text that ends with a slash ends with one, and it is that of the text without
the slash, with a slash behind it or none. -/
theorem opens_of_parse? (special : isSpecial root.scheme = true) (noFile : root.scheme ≠ "file")
    (noQuery : root.query = none) (noFragment : root.fragment = none)
    (read : parse? (String.ofList (front ++ ['/'])) = some root) :
    ∃ url, Opens root url ∧ ((∀ c ∈ front.getLast?, isMargin c = false) →
      parse? (String.ofList front) = some url) := by
  obtain ⟨rest, begins⟩ := scheme?_of_parse? noFile read
  have served := (parse?_of_scheme? special noFile begins).symm.trans read
  obtain ⟨query, fragment⟩ := parts_of_readServed? served
  rw [noQuery] at query
  rw [noFragment] at fragment
  obtain ⟨parts, noMark, noQueryMark⟩ := parts_eq_of_bare
    (Option.map_eq_none_iff.mp query.symm) (Option.map_eq_none_iff.mp fragment.symm)
  rw [String.toList_ofList, significant_slash] at parts noMark noQueryMark
  rw [parts, scheme?_slash] at begins
  obtain ⟨⟨scheme, after⟩, plain, whole⟩ := Option.map_eq_some_iff.mp begins
  obtain ⟨rfl, rfl⟩ := Prod.mk.inj whole
  rw [parts] at served
  rcases dropWhile_slash after with nothing | behind
  · rw [nothing, readServed?_nil special] at served
    cases served
  rw [behind] at served
  obtain ⟨url, plainly, opens⟩ := readServed?_slash (counted front) noFile special served
  refine ⟨url, opens, fun last => ?_⟩
  have counts : significant (String.ofList front).toList = counted front := by
    rw [String.toList_ofList, significant_of_last last]
  have plainParts := parts_of_plain counts (fun member => noMark (by simp [member]))
    fun member => noQueryMark (by simp [member])
  rw [parse?_of_scheme? special noFile (by rw [plainParts]; exact plain), plainParts, plainly]

end Addresses

section Texts

/-- The text of a path that ends with a slash. -/
theorem text_opened (path : List String) :
    (UrlPath.segments (path ++ [""])).text = (UrlPath.segments path).text ++ "/" := by
  simp [UrlPath.text, String.join_append]

/-- The text of an address of a server that has neither query nor fragment. -/
theorem text_of_served {url : Url} {authority : Authority}
    (served : url.authority = some authority) (noQuery : url.query = none)
    (noFragment : url.fragment = none) :
    url.text = url.scheme ++ ":" ++ ("//" ++ authority.text) ++ url.path.text := by
  simp only [Url.text, target, beforePath, served, noQuery, noFragment, marked, String.append_empty]

namespace Opens

variable {root url : Url} (opens : Opens root url) (noQuery : root.query = none)
  (noFragment : root.fragment = none)
include opens noQuery noFragment

/-- The text of the first of the addresses ends with a slash. -/
theorem getLast?_text : root.text.toList.getLast? = some '/' := by
  obtain ⟨authority, served⟩ := opens.served
  obtain ⟨path, front, -, opened, -⟩ := opens.path
  rw [text_of_served served noQuery noFragment, opened, text_opened, ← String.append_assoc,
    String.toList_append]
  exact List.getLast?_concat

/-- The first of the addresses is written as the second, with a slash behind it or none. -/
theorem text_eq : root.text = url.text ∨ root.text = url.text ++ "/" := by
  obtain ⟨authority, served⟩ := opens.served
  obtain ⟨path, front, rfl, opened, same | added⟩ := opens.path
  · refine .inl ?_
    rw [← same, ← opened]
  · refine .inr ?_
    have plain : Url.text { root with path := .segments path } =
        root.scheme ++ ":" ++ ("//" ++ authority.text) ++ (UrlPath.segments path).text :=
      text_of_served served noQuery noFragment
    rw [plain, text_of_served served noQuery noFragment, opened, added, text_opened]
    exact (String.append_assoc ..).symm

end Opens

end Texts

end VmLaunch.Url
