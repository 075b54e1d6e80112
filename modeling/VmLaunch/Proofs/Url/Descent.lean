import VmLaunch.Proofs.Text.Escape
import VmLaunch.Proofs.Url.Opened

/-!
# Paths that go down

A `Descent` is a path whose segments all go down, with or without a query. A walk along it only
adds its segments to a path that ends with a slash, so that read relative to an address with such a
path it is written behind that address as it stands.
-/

namespace VmLaunch.Url

/-- A segment that goes down and is written as it stands. -/
structure GoesDown (segment : String) : Prop where
  named : segment ≠ ""
  plain : ∀ c ∈ segment.toList, Percent.isUnreserved c = true
  notHere : segment ≠ "."
  notUp : segment ≠ ".."

instance (segment : String) : Decidable (GoesDown segment) :=
  decidable_of_iff
    (segment ≠ "" ∧ segment.toList.all Percent.isUnreserved = true ∧ segment ≠ "." ∧
      segment ≠ "..")
    ⟨fun ⟨named, plain, notHere, notUp⟩ => ⟨named, List.all_eq_true.mp plain, notHere, notUp⟩,
      fun down => ⟨down.named, List.all_eq_true.mpr down.plain, down.notHere, down.notUp⟩⟩

/-- Whether a character of a query needs no escape. -/
def standsInQuery (c : Char) : Bool :=
  Percent.isUnreserved c || c == '=' || c == '&'

/-- A path of segments that go down, with or without a query. -/
structure Descent where
  segments : List String
  query : Option String
  down : ∀ segment ∈ segments, GoesDown segment
  spelled : ∀ text ∈ query, ∃ bytes, Percent.Spells standsInQuery text.toList bytes

/-- The text of a path: its segments with slashes between them, and its query. -/
def Descent.text (descent : Descent) : String :=
  Text.join "/" descent.segments ++ marked "?" descent.query

section Characters

/-- Characters of segments are not dropped and need no escape. -/
theorem clean_of_isUnreserved {c : Char} (plain : Percent.isUnreserved c = true) :
    isMargin c = false ∧ keepsInPath (Percent.code c) = true := by
  have each := Percent.ascii_forall (p := fun c => Percent.isUnreserved c = true →
    isMargin c = false ∧ keepsInPath (Percent.code c) = true) (by decide +kernel)
    (Percent.ascii_of_isUnreserved plain)
  exact each plain

/-- No unreserved character separates segments. -/
theorem isSlash_of_isUnreserved {c : Char} (plain : Percent.isUnreserved c = true)
    (special : Bool) : isSlash special c = false := by
  have slash : c ≠ '/' := Percent.ne_of_isUnreserved plain rfl
  have backslash : c ≠ '\\' := Percent.ne_of_isUnreserved plain rfl
  simp [isSlash, slash, backslash]

/-- Characters of queries begin no fragment, are not dropped and need no escape. -/
theorem clean_of_query {c : Char} (plain : standsInQuery c = true ∨ c = '%' ∨
      ∃ value, Written.hexValue? c = some value) :
    c.toNat < 128 ∧ c ≠ '#' ∧ isMargin c = false ∧
      ∀ special, keepsInQuery special (Percent.code c) = true := by
  have stands : standsInQuery c = true ∨ c = '%' := by
    rcases plain with plain | plain | ⟨value, digit⟩
    · exact .inl plain
    · exact .inr plain
    · refine .inl ?_
      simp [standsInQuery, Percent.isUnreserved, Percent.isAlphanum_of_hexValue? digit]
  have ascii : c.toNat < 128 := by
    rcases stands with plain | rfl
    · simp only [standsInQuery, Bool.or_eq_true, beq_iff_eq] at plain
      rcases plain with (plain | rfl) | rfl
      · exact Percent.ascii_of_isUnreserved plain
      all_goals decide
    · decide
  have each := Percent.ascii_forall (p := fun c => standsInQuery c = true ∨ c = '%' →
    c ≠ '#' ∧ isMargin c = false ∧ ∀ special, keepsInQuery special (Percent.code c) = true)
    (by decide +kernel) ascii
  exact ⟨ascii, each stands⟩

/-- A segment that goes down is written as it is. -/
theorem GoesDown.written_eq {segment : String} (down : GoesDown segment) :
    written keepsInPath segment.toList = segment := by
  rw [written, Percent.encode_of_kept
    (fun c member => Percent.ascii_of_isUnreserved (down.plain c member))
    (fun c member => (clean_of_isUnreserved (down.plain c member)).2), String.ofList_toList]

/-- A query that is spelled with escapes is written as it stands. -/
theorem written_query {text : String} {bytes : List UInt8}
    (spells : Percent.Spells standsInQuery text.toList bytes) (special : Bool) :
    written (keepsInQuery special) text.toList = text := by
  rw [written, Percent.encode_of_kept
    (fun c member => (clean_of_query (spells.cases_mem member)).1)
    (fun c member => (clean_of_query (spells.cases_mem member)).2.2.2 special),
    String.ofList_toList]

end Characters

section Walks

/-- Without escapes a segment of dots is those dots. -/
theorem eq_of_dots_eq {cs only : List Char} (escapes : '%' ∉ cs) (absent : '%' ∉ only)
    (same : dots cs = only) : cs = only := by
  induction cs generalizing only with
  | nil => exact same
  | cons c rest inductionHypothesis =>
    by_cases dot : c = '.'
    · subst dot
      rw [dots] at same
      subst same
      rw [List.mem_cons, not_or] at escapes absent
      rw [← inductionHypothesis escapes.2 absent.2 rfl]
    · have other : c ≠ '%' := fun percent => escapes (percent ▸ List.mem_cons_self)
      have marks : dots (c :: rest) = ['%'] := by
        unfold dots
        split
        next same => exact absurd (List.cons.inj same).1 other
        next same => exact absurd (List.cons.inj same).1 dot
        next same => cases same
        next => rfl
      rw [marks] at same
      subst same
      exact absurd List.mem_cons_self absent

/-- A segment that goes down is no step up and no step on the spot. -/
theorem GoesDown.stays {segment : String} (down : GoesDown segment) :
    isUp segment.toList = false ∧ isHere segment.toList = false := by
  have escapes : '%' ∉ segment.toList := fun member =>
    Percent.ne_of_isUnreserved (down.plain '%' member) rfl rfl
  have apart : ∀ only : String, segment ≠ only → '%' ∉ only.toList →
      (dots segment.toList == only.toList) = false := by
    intro only different absent
    refine beq_eq_false_iff_ne.mpr fun same => different ?_
    exact String.toList_inj.mp (eq_of_dots_eq escapes absent same)
  exact ⟨apart ".." down.notUp (by decide), apart "." down.notHere (by decide)⟩

variable {scheme : String} {path : List String} {hosted : Bool}

/-- A segment that goes down is added to a path that ends with a slash. -/
theorem GoesDown.go_eq {segment : String} (noFile : scheme ≠ "file") (down : GoesDown segment)
    (last : Bool) :
    Walk.go scheme last ⟨path ++ [""], hosted⟩ segment.toList =
      ⟨if last then path ++ [segment] else path ++ [segment] ++ [""], hosted⟩ := by
  have other : (scheme == "file") = false := beq_eq_false_iff_ne.mpr noFile
  have longer : extended (path ++ [""]) segment = path ++ [segment] := by
    simp [extended]
  simp only [Walk.go, down.stays.1, down.stays.2, other, down.written_eq, longer, opened,
    Bool.false_and, Bool.not_false, Bool.and_true, Bool.false_eq_true, if_false]

/-- Segments that go down are added to a path that ends with a slash. -/
theorem along_of_down (noFile : scheme ≠ "file") {segments : List String} (any : segments ≠ [])
    (down : ∀ segment ∈ segments, GoesDown segment) (path : List String) :
    Walk.along scheme ⟨path ++ [""], hosted⟩ (segments.map String.toList) =
      ⟨path ++ segments, hosted⟩ := by
  induction segments generalizing path with
  | nil => exact absurd rfl any
  | cons segment rest inductionHypothesis =>
    obtain ⟨first, others⟩ := List.forall_mem_cons.mp down
    cases rest with
    | nil => exact first.go_eq noFile true
    | cons next more =>
      rw [List.map_cons, Walk.along_cons _ _ (by simp), first.go_eq noFile false,
        if_neg Bool.false_ne_true, inductionHypothesis (List.cons_ne_nil _ _) others,
        List.append_assoc, List.singleton_append]

/-- The segments of a path are the pieces of its text. -/
theorem splitOn_join {segments : List String} (any : segments ≠ [])
    (down : ∀ segment ∈ segments, GoesDown segment) :
    Text.splitOn '/' (Text.join "/" segments).toList = segments.map String.toList := by
  have whole : ∀ segment, GoesDown segment →
      Text.splitOn '/' segment.toList = [segment.toList] := fun segment down =>
    Text.splitOn_of_not_mem fun member =>
      Percent.ne_of_isUnreserved (down.plain '/' member) rfl rfl
  induction segments with
  | nil => exact absurd rfl any
  | cons segment rest inductionHypothesis =>
    obtain ⟨first, others⟩ := List.forall_mem_cons.mp down
    cases rest with
    | nil => exact whole segment first
    | cons next more =>
      have slash : (segment ++ "/" ++ Text.join "/" (next :: more)).toList =
          segment.toList ++ '/' :: (Text.join "/" (next :: more)).toList := by simp
      rw [Text.join_cons_cons, slash, Text.splitOn_append_cons, whole segment first,
        inductionHypothesis (List.cons_ne_nil _ _) others]
      rfl

/-- The characters of a path are slashes and those of its segments. -/
theorem join_forall {p : Char → Prop} (slash : p '/')
    (plain : ∀ c, Percent.isUnreserved c = true → p c) {segments : List String}
    (down : ∀ segment ∈ segments, GoesDown segment) :
    ∀ c ∈ (Text.join "/" segments).toList, p c := by
  induction segments with
  | nil => simp [Text.join]
  | cons segment rest inductionHypothesis =>
    obtain ⟨first, others⟩ := List.forall_mem_cons.mp down
    have own : ∀ c ∈ segment.toList, p c := fun c member => plain c (first.plain c member)
    cases rest with
    | nil => exact own
    | cons next more =>
      intro c member
      rw [Text.join_cons_cons, String.toList_append, String.toList_append, List.mem_append,
        List.mem_append] at member
      rcases member with (mine | mark) | later
      · exact own c mine
      · cases List.mem_singleton.mp mark
        exact slash
      · exact inductionHypothesis others c later

end Walks

section Joining

variable {scheme : String} {path : List String}

/-- What holds of separators, of unreserved characters and of those of a query holds throughout a
path that goes down. -/
theorem Descent.forall_mem {p : Char → Prop} (descent : Descent) (slash : p '/') (mark : p '?')
    (plain : ∀ c, Percent.isUnreserved c = true → p c)
    (queried : ∀ c, (standsInQuery c = true ∨ c = '%' ∨
      ∃ value, Written.hexValue? c = some value) → p c) :
    ∀ c ∈ descent.text.toList, p c := by
  intro c member
  rw [text, String.toList_append, List.mem_append] at member
  rcases member with path | query
  · exact join_forall slash plain descent.down c path
  · cases asked : descent.query with
    | none =>
      rw [asked] at query
      cases query
    | some text =>
      obtain ⟨bytes, spells⟩ := descent.spelled text asked
      rw [asked, marked, String.toList_append, List.mem_append] at query
      rcases query with first | later
      · cases List.mem_singleton.mp first
        exact mark
      · exact queried c (spells.cases_mem later)

/-- A path that goes down is read as its segments and its query. -/
theorem Descent.parts_eq (descent : Descent) :
    Parts.of descent.text =
      ⟨(Text.join "/" descent.segments).toList, descent.query.map String.toList, none⟩ := by
  have kept : ∀ c ∈ descent.text.toList, isMargin c = false :=
    descent.forall_mem (by decide) (by decide) (fun c plain => (clean_of_isUnreserved plain).1)
      fun c plain => (clean_of_query plain).2.2.1
  have whole : '#' ∉ descent.text.toList := fun member =>
    descent.forall_mem (p := fun c => c ≠ '#') (by decide) (by decide)
      (fun c plain => Percent.ne_of_isUnreserved plain rfl)
      (fun c plain => (clean_of_query plain).2.1) '#' member rfl
  have single : '?' ∉ (Text.join "/" descent.segments).toList := fun member =>
    join_forall (p := fun c => c ≠ '?') (by decide)
      (fun c plain => Percent.ne_of_isUnreserved plain rfl) descent.down '?'
      member rfl
  have cut : cutAt '?' descent.text.toList =
      ((Text.join "/" descent.segments).toList, descent.query.map String.toList) := by
    rw [text, String.toList_append]
    cases descent.query with
    | none =>
      rw [marked, String.toList_empty, List.append_nil, cutAt_of_not_mem single]
      rfl
    | some query =>
      rw [marked, String.toList_append, show "?".toList = ['?'] from rfl, List.singleton_append,
        cutAt_append_cons single]
      rfl
  rw [Parts.of, significant_of_kept kept, cutAt_of_not_mem whole]
  simp only [cut]

/-- The query of a path that goes down is written as it stands. -/
theorem Descent.queryText_eq (descent : Descent) (scheme : String) :
    (Parts.of descent.text).queryText scheme = descent.query := by
  rw [descent.parts_eq, Parts.queryText]
  cases asked : descent.query with
  | none => rfl
  | some query =>
    obtain ⟨bytes, spells⟩ := descent.spelled query asked
    exact congrArg some (written_query spells _)

/-- Segments that go down are walked one by one from an open path. -/
theorem walk_of_down (noFile : scheme ≠ "file") {segments : List String} (any : segments ≠ [])
    (down : ∀ segment ∈ segments, GoesDown segment) (path : List String) :
    (walk scheme (path ++ [""]) (Text.join "/" segments).toList).path = path ++ segments := by
  have other : (scheme == "file") = false := beq_eq_false_iff_ne.mpr noFile
  have slashes : withSlashes (isSpecial scheme) (Text.join "/" segments).toList =
      (Text.join "/" segments).toList := by
    have same := join_forall (p := fun c => (if isSlash (isSpecial scheme) c then '/' else c) = c)
      (if_pos rfl) (fun c plain => ?_) down
    · rw [withSlashes, List.map_congr_left (g := id) same, List.map_id]
    · exact if_neg (by simp [isSlash_of_isUnreserved plain])
  simp only [walk, other, Bool.false_and, Bool.false_eq_true, if_false, slashes,
    splitOn_join any down, along_of_down noFile any down]

/-- A path that goes down begins with a character of its first segment. -/
theorem exists_head_join {segments : List String} (any : segments ≠ [])
    (down : ∀ segment ∈ segments, GoesDown segment) :
    ∃ first rest, (Text.join "/" segments).toList = first :: rest ∧
      Percent.isUnreserved first = true := by
  obtain ⟨segment, more, rfl⟩ := List.exists_cons_of_ne_nil any
  have own := down segment List.mem_cons_self
  have behind : ∃ rest, (Text.join "/" (segment :: more)).toList = segment.toList ++ rest := by
    cases more with
    | nil => exact ⟨[], (List.append_nil _).symm⟩
    | cons next others =>
      refine ⟨'/' :: (Text.join "/" (next :: others)).toList, ?_⟩
      simp [Text.join]
  obtain ⟨rest, whole⟩ := behind
  cases shape : segment.toList with
  | nil => exact absurd (String.toList_inj.mp shape) own.named
  | cons first others =>
    refine ⟨first, others ++ rest, by rw [whole, shape, List.cons_append], own.plain first ?_⟩
    rw [shape]
    exact List.mem_cons_self

/-- The segments of a path, behind those of a path that ends with a slash. -/
def Descent.below (descent : Descent) (path : List String) : List String :=
  if descent.segments = [] then path ++ [""] else path ++ descent.segments

/-- A path that goes down lies below an address whose path ends with a slash. -/
theorem Descent.join?_eq {base : Url} (descent : Descent) (noFile : base.scheme ≠ "file")
    (divided : base.path = .segments (path ++ [""])) (plain : base.query = none) :
    base.join? descent.text = some { base with
      path := .segments (descent.below path), query := descent.query, fragment := none } := by
  have other : (base.scheme == "file") = false := beq_eq_false_iff_ne.mpr noFile
  have unschemed : scheme? (Parts.of descent.text).body = none := by
    refine scheme?_of_not_mem fun member => ?_
    rw [descent.parts_eq] at member
    exact join_forall (p := fun c => c ≠ ':') (by decide)
      (fun c plain => Percent.ne_of_isUnreserved plain rfl) descent.down ':'
      member rfl
  have queried := descent.queryText_eq base.scheme
  have unmarked : (Parts.of descent.text).fragmentText = none := by
    rw [descent.parts_eq]
    rfl
  simp only [join?, unschemed, divided, readAgainst?, other, Bool.false_eq_true, if_false]
  unfold readRelative?
  by_cases idle : descent.segments = []
  · have empty : (Parts.of descent.text).body = [] := by
      rw [descent.parts_eq, idle]
      rfl
    have same : descent.below path = path ++ [""] := if_pos idle
    simp only [empty, withParts, queried, unmarked, same, ← divided]
    cases asked : descent.query with
    | none => simp only [← plain]
    | some query => rfl
  · obtain ⟨first, rest, begins, plain⟩ := exists_head_join idle descent.down
    have body : (Parts.of descent.text).body = first :: rest := by rw [descent.parts_eq, begins]
    have noSlash := isSlash_of_isUnreserved plain true
    have start : folder base.scheme (segmentsOf base) = path ++ [""] := by
      simp [folder, segmentsOf, divided, other]
    have walked := walk_of_down noFile idle descent.down path
    have same : descent.below path = path ++ descent.segments := if_neg idle
    rw [body]
    split
    next shape => cases shape
    next others shape =>
      cases shape
      cases noSlash
    next shape =>
      cases shape
      rw [noSlash, if_neg Bool.false_ne_true, start, ← begins]
      simp [withPath, walked, queried, unmarked, same]

/-- Nothing before a path that goes down is taken for a part of it. -/
theorem Descent.head_ne_slash (descent : Descent) :
    ∀ c ∈ descent.text.toList.head?, (c == '/') = false := by
  intro c first
  by_cases idle : descent.segments = []
  · rw [text, idle, Text.join, String.empty_append] at first
    cases asked : descent.query with
    | none =>
      rw [asked] at first
      cases first
    | some query =>
      rw [asked, marked, String.toList_append] at first
      cases first
      rfl
  · obtain ⟨head, rest, begins, plain⟩ := exists_head_join idle descent.down
    rw [text, String.toList_append, begins] at first
    cases first
    exact beq_eq_false_iff_ne.mpr (Percent.ne_of_isUnreserved plain rfl)

end Joining

section Texts

variable {path : List String}

/-- Segments behind a separator each are the joined ones behind a separator. -/
theorem join_slashes {segments : List String} (any : segments ≠ []) :
    String.join (segments.map fun item => "/" ++ item) = "/" ++ Text.join "/" segments := by
  induction segments with
  | nil => exact absurd rfl any
  | cons segment rest inductionHypothesis =>
    cases rest with
    | nil => simp [Text.join]
    | cons next more =>
      rw [List.map_cons, String.join_cons, inductionHypothesis (List.cons_ne_nil _ _),
        Text.join_cons_cons]
      simp only [String.append_assoc]

/-- What lies below an address is written behind it as it stands. -/
theorem Descent.text_below {base : Url} {authority : Authority} (descent : Descent)
    (served : base.authority = some authority)
    (divided : base.path = .segments (path ++ [""])) (plain : base.query = none)
    (unmarked : base.fragment = none) :
    Url.text { base with
      path := .segments (descent.below path), query := descent.query, fragment := none } =
        base.text ++ descent.text := by
  have paths : (UrlPath.segments (descent.below path)).text =
      (UrlPath.segments (path ++ [""])).text ++ Text.join "/" descent.segments := by
    by_cases idle : descent.segments = []
    · rw [below, if_pos idle, idle, Text.join, String.append_empty]
    · rw [below, if_neg idle, text_opened, UrlPath.text, UrlPath.text, List.map_append,
        String.join_append, join_slashes idle, String.append_assoc]
  simp only [Url.text, target, beforePath, served, divided, plain, unmarked, paths, Descent.text,
    marked, String.append_assoc, String.append_empty]

end Texts

end VmLaunch.Url
