import VmLaunch.Proofs.Text.Occurrence
import VmLaunch.Url.Read

/-!
# Which server a text names

A text that is read relative to a base may name a server itself: after a scheme of its own, after
two slashes or backslashes, or, for files, by a drive. `Lead` is what its beginning says of that.
The address that is read lies at the server that the text names, and at that of the base only when
it names none.
-/

namespace VmLaunch

namespace Url

/-- What the beginning of a text says of the server. -/
inductive Lead where
  /-- A scheme of its own, and what follows its colon. -/
  | address (scheme : String) (rest : List Char)
  /-- A server after two slashes. -/
  | server (cs : List Char)
  /-- A drive, which is on no host. -/
  | drive
  | nothing

/-- What follows the slashes at the head of the characters: all of them, but only two in a file or
when these are no backslashes. -/
def afterSlashes (scheme : String) (body : List Char) : List Char :=
  if scheme == "file" || ['/', '/'].isPrefixOf body then body.drop 2
  else body.dropWhile (isSlash true)

/-- The server that is meant by a file on no host. -/
def localOrigin : Origin :=
  ⟨"file", some "", none⟩

/-- Whether the path of an address begins with a drive. -/
def startsAtDrive (url : Url) : Bool :=
  (segmentsOf url).head?.any isDrive

/-- What characters without a scheme of their own say of the server. -/
def Lead.relative (base : Url) (body : List Char) : Lead :=
  match body with
  | [] => .nothing
  | first :: rest =>
    let file := base.scheme == "file"
    if isSlash true first then
      if rest.head?.any (isSlash true) then .server (afterSlashes base.scheme body)
      else if file && (beginsWithDrive rest || startsAtDrive base) then .drive
      else .nothing
    else if file && beginsWithDrive body then .drive
    else .nothing

/-- What characters say of the server. The scheme of the base counts as none before less than two
slashes. -/
def Lead.of (base : Url) (body : List Char) : Lead :=
  match scheme? body with
  | some (own, rest) =>
    if own == base.scheme && staysRelative own rest then .relative base rest
    else .address own rest
  | none => .relative base body

/-- The server that is meant. -/
def Lead.origin? (base : Url) (parts : Parts) : Lead → Option Origin
  | .address scheme rest => (readAbsolute? scheme rest parts).map origin
  | .server cs =>
    (if base.scheme == "file" then readFileServed? cs parts
      else readServed? base.scheme cs parts).map origin
  | .drive => some localOrigin
  | .nothing => none

/-- The server that a text names itself when it is read relative to a base. -/
def named? (base : Url) (text : String) : Option Origin :=
  let parts := Parts.of text
  (Lead.of base parts.body).origin? base parts

/-- A file is served by its host, on no port. -/
def FileServed (url : Url) : Prop :=
  url.scheme = "file" → url.origin = ⟨"file", some (hostOf url), none⟩

section Joining

theorem origin_fileUrl (host : String) (path : List String) (parts : Parts) :
    (fileUrl host path parts).origin = ⟨"file", some host, none⟩ :=
  rfl

theorem origin_withPath (base : Url) (path : List String) (parts : Parts) :
    (withPath base path parts).origin = base.origin :=
  rfl

/-- Other parts leave the origin as it is. -/
theorem origin_withParts (base : Url) (parts : Parts) :
    (withParts base parts).origin = base.origin := by
  unfold withParts
  split <;> rfl

/-- The characters of a body say of the server what they say alone. -/
theorem Lead.origin?_withBody (lead : Lead) (base : Url) (parts : Parts) (body : List Char) :
    lead.origin? base { parts with body := body } = lead.origin? base parts := by
  cases lead <;> rfl

/-- What follows two slashes is a server; anything else that is no file is at the server of the
base. -/
theorem origin_of_readRelative? {base url : Url} {parts : Parts}
    (other : base.scheme ≠ "file") (read : readRelative? base parts = some url) :
    url.origin = ((Lead.relative base parts.body).origin? base parts).getD base.origin := by
  obtain ⟨body, query, fragment⟩ := parts
  have noFile : (base.scheme == "file") = false := beq_eq_false_iff_ne.mpr other
  unfold readRelative? at read
  split at read
  next vacant =>
    obtain rfl : body = [] := vacant
    cases read
    exact origin_withParts base _
  next rest double =>
    obtain rfl : body = '/' :: '/' :: rest := double
    simp [Lead.relative, Lead.origin?, afterSlashes, isSlash, noFile, read]
  next first rest single begins =>
    obtain rfl : body = first :: rest := begins
    simp only [Lead.relative, noFile, Bool.false_and, Bool.false_eq_true, if_false]
    have notDouble : ['/', '/'].isPrefixOf (first :: rest) = false := by
      refine Bool.eq_false_iff.mpr fun double => ?_
      obtain ⟨others, same⟩ := List.isPrefixOf_iff_prefix.mp double
      obtain ⟨rfl, rfl⟩ := List.cons.inj same
      exact single others rfl rfl
    split at read
    next slash =>
      rw [if_pos slash]
      split at read
      next again =>
        rw [if_pos again]
        simp [Lead.origin?, afterSlashes, noFile, notDouble, slash, read]
      next once =>
        rw [if_neg once]
        cases read
        exact origin_withPath base _ _
    next plain =>
      rw [if_neg plain]
      cases read
      exact origin_withPath base _ _

/-- A path after one slash is on no host when the base is on a drive. -/
theorem fileRoot_host (base : Url) :
    (fileRoot (some base)).1 = if startsAtDrive base then "" else hostOf base := by
  unfold fileRoot startsAtDrive
  simp only
  cases segmentsOf base with
  | nil => rfl
  | cons first rest => by_cases drive : isDrive first <;> simp [drive]

/-- What follows two slashes is the server of a file; a drive is on none, and anything else is at
that of the base. -/
theorem origin_of_readFile? {base url : Url} {parts : Parts} (served : FileServed base)
    (file : base.scheme = "file") (read : readFile? (some base) parts = some url) :
    url.origin = ((Lead.relative base parts.body).origin? base parts).getD base.origin := by
  obtain ⟨body, query, fragment⟩ := parts
  have isFile : (base.scheme == "file") = true := beq_iff_eq.mpr file
  cases body with
  | nil =>
    cases read
    exact origin_withParts base _
  | cons first rest =>
    unfold readFile? at read
    simp only [Lead.relative, isFile, Bool.true_and]
    simp only at read
    split at read
    next slash =>
      rw [if_pos slash]
      split at read
      next again =>
        have behind : afterSlashes base.scheme (first :: rest) = rest.tail := by
          rw [afterSlashes, isFile, Bool.true_or, if_pos rfl, List.drop_succ_cons, List.drop_one]
        rw [if_pos again, behind]
        simp [Lead.origin?, isFile, read]
      next once =>
        rw [if_neg once]
        cases read
        rw [origin_fileUrl]
        by_cases drive : beginsWithDrive rest
        · simp [drive, Lead.origin?, localOrigin]
        · by_cases start : startsAtDrive base
          · simp [drive, start, Lead.origin?, localOrigin, fileRoot_host]
          · simp [drive, start, Lead.origin?, fileRoot_host, served file]
    next plain =>
      rw [if_neg plain]
      split at read
      next drive =>
        cases read
        rw [if_pos drive]
        rfl
      next inside =>
        rw [if_neg inside]
        cases read
        exact origin_withPath base _ _

/-- A path that is read against a base has the origin that its beginning leads to, or else that of
the base. -/
theorem origin_of_readAgainst? {base url : Url} {parts : Parts}
    (served : FileServed base) (read : readAgainst? base parts = some url) :
    url.origin = ((Lead.relative base parts.body).origin? base parts).getD base.origin := by
  unfold readAgainst? at read
  by_cases file : base.scheme = "file"
  · rw [if_pos (beq_iff_eq.mpr file)] at read
    exact origin_of_readFile? served file read
  · rw [if_neg (by simpa using file)] at read
    exact origin_of_readRelative? file read

/-- What is read relative to a base is at the server that its text names, and at that of the base
when it names none. -/
theorem origin_of_join? {base url : Url} {text : String}
    (served : FileServed base) (joined : base.join? text = some url) :
    url.origin = (base.named? text).getD base.origin := by
  unfold join? at joined
  unfold named? Lead.of
  generalize Parts.of text = parts at joined ⊢
  simp only at joined ⊢
  split at joined
  next own rest path scheme =>
    simp only [scheme]
    split at joined
    next relative =>
      rw [if_pos relative]
      have origin := origin_of_readAgainst? served joined
      rwa [Lead.origin?_withBody] at origin
    next absolute =>
      rw [if_neg absolute]
      simp [Lead.origin?, joined]
  next path scheme divided =>
    simp only [scheme]
    exact origin_of_readAgainst? served joined
  next path scheme whole =>
    simp only [scheme]
    split at joined
    next vacant _ _ =>
      rw [vacant]
      cases joined
      rfl
    next => cases joined

end Joining

section Bases

/-- What is read as the server of a file is the address of a file. -/
theorem exists_fileUrl_of_readFileServed? {cs : List Char} {parts : Parts} {url : Url}
    (read : readFileServed? cs parts = some url) :
    ∃ host path, url = fileUrl host path parts := by
  unfold readFileServed? at read
  simp only at read
  split at read
  · cases read
    exact ⟨_, _, rfl⟩
  split at read
  · cases read
    exact ⟨_, _, rfl⟩
  · obtain ⟨host, -, rfl⟩ := Option.map_eq_some_iff.mp read
    split
    · exact ⟨_, _, rfl⟩
    · exact ⟨_, _, rfl⟩

/-- What is read as a file without a base is the address of a file. -/
theorem exists_fileUrl_of_readFile? {parts : Parts} {url : Url}
    (read : readFile? none parts = some url) : ∃ host path, url = fileUrl host path parts := by
  unfold readFile? at read
  split at read
  next base _ _ none => cases none
  next => 
    cases read
    exact ⟨_, _, rfl⟩
  next first rest =>
    split at read
    · split at read
      · exact exists_fileUrl_of_readFileServed? read
      · cases read
        exact ⟨_, _, rfl⟩
    · cases read
      exact ⟨_, _, rfl⟩

/-- An address without a base has the scheme that it begins with. -/
theorem scheme_of_readAbsolute? {scheme : String} {rest : List Char} {parts : Parts} {url : Url}
    (other : scheme ≠ "file") (read : readAbsolute? scheme rest parts = some url) :
    url.scheme = scheme := by
  have ofServed : ∀ cs, readServed? scheme cs parts = some url → url.scheme = scheme := by
    intro cs served
    obtain ⟨authority, -, rfl⟩ := Option.map_eq_some_iff.mp served
    rfl
  unfold readAbsolute? at read
  simp only at read
  rw [if_neg (by simpa using other)] at read
  split at read
  · exact ofServed _ read
  split at read
  · exact ofServed _ read
  · cases read
    rfl
  · cases read
    rfl

/-- An address that was read is, if that of a file, served by its host, on no port. -/
theorem fileServed_of_parse? {text : String} {base : Url} (read : parse? text = some base) :
    FileServed base := by
  intro file
  unfold parse? at read
  simp only at read
  split at read
  next scheme rest _ =>
    by_cases same : scheme = "file"
    · unfold readAbsolute? at read
      rw [if_pos (beq_iff_eq.mpr same)] at read
      obtain ⟨host, path, rfl⟩ := exists_fileUrl_of_readFile? read
      rfl
    · exact absurd ((scheme_of_readAbsolute? same read).symm.trans file) same
  next => cases read

end Bases

section Heads

variable {word cs : List Char}

/-- Nothing is dropped from a word that begins with what is kept. -/
theorem dropWhile_of_head {α : Type} {p : α → Bool} {word : List α}
    (kept : ∀ c ∈ word.head?, p c = false) : word.dropWhile p = word := by
  cases word with
  | nil => rfl
  | cons c rest => exact List.dropWhile_cons_of_neg (by simp [kept c rfl])

/-- An ending is kept when what it begins with is. -/
theorem suffix_dropWhile {α : Type} {p : α → Bool} {word cs : List α}
    (kept : ∀ c ∈ word.head?, p c = false) (ends : word <:+ cs) : word <:+ cs.dropWhile p := by
  obtain ⟨front, rfl⟩ := ends
  rw [List.dropWhile_append, dropWhile_of_head kept]
  split
  · exact List.suffix_rfl
  · exact List.suffix_append _ word

/-- A beginning is kept when its first character is. -/
theorem prefix_dropWhile {α : Type} {p : α → Bool} {word cs : List α}
    (kept : ∀ c ∈ word.head?, p c = false) (begins : word <+: cs) : word <+: cs.dropWhile p := by
  obtain ⟨back, rfl⟩ := begins
  cases word with
  | nil => exact List.nil_prefix
  | cons c rest =>
    rw [dropWhile_of_head fun first head => kept first (by simpa using head)]
    exact List.prefix_append (c :: rest) back

/-- What stays at the ends of a text stays everywhere. -/
theorem not_isLineBreak_of_kept {c : Char} (kept : isMargin c = false) :
    (!isLineBreak c) = true := by
  rw [Bool.not_eq_true']
  refine Bool.eq_false_iff.mpr fun lineBreak => Bool.eq_false_iff.mp kept ?_
  simp only [isLineBreak, Bool.or_eq_true, beq_iff_eq] at lineBreak
  rcases lineBreak with (rfl | rfl) | rfl <;> decide

/-- A word at the head of a text counts when none of its characters is dropped. -/
theorem prefix_significant (kept : ∀ c ∈ word, isMargin c = false) (begins : word <+: cs) :
    word <+: significant cs := by
  have counts : ∀ c ∈ word, (!isLineBreak c) = true := fun c member =>
    not_isLineBreak_of_kept (kept c member)
  have front : word <+: cs.dropWhile isMargin :=
    prefix_dropWhile (fun c first => kept c (List.mem_of_mem_head? first)) begins
  have trimmed : word <+: ((cs.dropWhile isMargin).reverse.dropWhile isMargin).reverse := by
    rw [← List.reverse_suffix, List.reverse_reverse]
    exact suffix_dropWhile
      (fun c last => kept c (List.mem_reverse.mp (List.mem_of_mem_head? last)))
      (List.reverse_suffix.mpr front)
  have filtered := trimmed.filter fun c => !isLineBreak c
  rwa [List.filter_eq_self.mpr counts] at filtered

/-- Without characters that are dropped a text counts as it stands. -/
theorem significant_of_kept (kept : ∀ c ∈ cs, isMargin c = false) : significant cs = cs := by
  have fewer : (significant cs).Sublist cs := by
    unfold significant
    refine List.filter_sublist.trans ?_
    rw [← List.reverse_sublist, List.reverse_reverse]
    exact (List.dropWhile_sublist _).trans
      (List.reverse_sublist.mpr (List.dropWhile_sublist _))
  exact ((prefix_significant kept List.prefix_rfl).eq_of_length_le fewer.length_le).symm

/-- A word without a mark lies before the mark. -/
theorem prefix_takeWhile {mark : Char} (absent : mark ∉ word) (begins : word <+: cs) :
    word <+: cs.takeWhile (· != mark) := by
  obtain ⟨back, rfl⟩ := begins
  have before : ∀ c ∈ word, (c != mark) = true := fun c member => by
    simpa using ne_of_mem_of_not_mem member absent
  rw [List.takeWhile_append_of_pos before]
  exact List.prefix_append word _

/-- A beginning without the mark stands before the mark. -/
theorem prefix_cutAt {mark : Char} (absent : mark ∉ word) (begins : word <+: cs) :
    word <+: (cutAt mark cs).1 := by
  unfold cutAt
  rw [Text.cutChars?_eq]
  by_cases occurs : mark ∈ cs
  · rw [if_pos occurs]
    exact prefix_takeWhile absent begins
  · rw [if_neg occurs]
    exact begins

/-- A beginning without marks is one of the body. -/
theorem prefix_body {text : String} (kept : ∀ c ∈ word, isMargin c = false)
    (noFragment : '#' ∉ word) (noQuery : '?' ∉ word) (begins : word <+: text.toList) :
    word <+: (Parts.of text).body :=
  prefix_cutAt noQuery (prefix_cutAt noFragment (prefix_significant kept begins))

/-- What stands before a mark is a beginning. -/
theorem fst_cutAt_prefix_self (mark : Char) (cs : List Char) : (cutAt mark cs).1 <+: cs := by
  unfold cutAt
  rw [Text.cutChars?_eq]
  by_cases occurs : mark ∈ cs
  · rw [if_pos occurs]
    exact List.takeWhile_prefix _
  · simp [occurs]

/-- Without characters that are dropped the body of a text is its beginning. -/
theorem body_prefix_self {text : String} (kept : ∀ c ∈ text.toList, isMargin c = false) :
    (Parts.of text).body <+: text.toList := by
  have front : (Parts.of text).body <+: significant text.toList :=
    (fst_cutAt_prefix_self '?' _).trans (fst_cutAt_prefix_self '#' _)
  rwa [significant_of_kept kept] at front

/-- A slash before the first colon is in no scheme. -/
theorem scheme?_of_slash {body : List Char} (slash : '/' ∈ body.takeWhile (· != ':')) :
    scheme? body = none := by
  unfold scheme?
  rw [Text.cutChars?_eq]
  by_cases colon : ':' ∈ body
  · rw [if_pos colon]
    cases before : body.takeWhile (· != ':') with
    | nil => rfl
    | cons first name =>
      rw [before] at slash
      simp only
      refine if_neg fun valid => ?_
      simp only [Bool.and_eq_true, List.all_eq_true] at valid
      obtain ⟨letter, others⟩ := valid
      rcases List.mem_cons.mp slash with rfl | later
      · exact absurd letter (by decide)
      · exact absurd (others '/' later) (by decide)
  · rw [if_neg colon]

/-- The path of the projects leads to no server of its own. -/
theorem Lead.relative_projects (base : Url) (rest : List Char) :
    Lead.relative base ("projects/".toList ++ rest) = .nothing := by
  have letter : "projects/".toList ++ rest = 'p' :: ("rojects/".toList ++ rest) := rfl
  have noDrive : beginsWithDrive ("projects/".toList ++ rest) = false := rfl
  have noSlash : isSlash true 'p' = false := by decide
  rw [letter] at noDrive ⊢
  simp only [Lead.relative, noSlash, noDrive, Bool.and_false, Bool.false_eq_true, if_false]

/-- What lies below the projects names no server. -/
theorem named?_of_projects (base : Url) {text : String}
    (begins : "projects/".toList <+: text.toList) : base.named? text = none := by
  have body : "projects/".toList <+: (Parts.of text).body :=
    prefix_body (by simp [isMargin]) (by decide) (by decide) begins
  have noScheme : scheme? (Parts.of text).body = none :=
    scheme?_of_slash ((prefix_takeWhile (by decide) body).subset (by decide))
  obtain ⟨rest, whole⟩ := body
  unfold named? Lead.of
  simp only [noScheme]
  rw [← whole, Lead.relative_projects]
  rfl

/-- Without colon there is no scheme. -/
theorem scheme?_of_not_mem {body : List Char} (absent : ':' ∉ body) : scheme? body = none := by
  unfold scheme?
  rw [Text.cutChars?_eq, if_neg absent]

/-- Without colons, without a slash or backslash at its head and without characters that are
dropped a text names no server, unless it is read relative to a file. -/
theorem named?_of_plain {base : Url} {text : String} (noFile : base.scheme ≠ "file")
    (kept : ∀ c ∈ text.toList, isMargin c = false) (noColon : ':' ∉ text.toList)
    (noSlash : ∀ c ∈ text.toList.head?, isSlash true c = false) : base.named? text = none := by
  have body := body_prefix_self kept
  unfold named? Lead.of
  simp only [scheme?_of_not_mem fun colon => noColon (body.subset colon)]
  have relative : Lead.relative base (Parts.of text).body = .nothing := by
    cases shape : (Parts.of text).body with
    | nil => rfl
    | cons first rest =>
      rw [shape] at body
      obtain ⟨back, whole⟩ := body
      have plain : isSlash true first = false := noSlash first (by rw [← whole]; rfl)
      simp [Lead.relative, plain, noFile]
  rw [relative]
  rfl

end Heads

end Url

end VmLaunch
