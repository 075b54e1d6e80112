import VmLaunch.Host
import VmLaunch.Proofs.Source.Entries
import VmLaunch.Proofs.Text.Pieces

/-!
# Files that are written

A path that names a place for a file has directories on its way, so writing to it makes none. A
file that is put where its directory is changes which text stands at its place and nothing else:
neither what is a directory, nor where paths lead, nor what stands elsewhere.
-/

namespace VmLaunch.Host

variable {host : Host} {place next last : Place} {way : List String} {path name text : String}

section Directories

/-- The directories are what leads to the working directory, to a directory that was made or to a
file. -/
theorem isDirectory_iff :
    host.isDirectory place = true ↔
      place <+: host.directory ∨ (∃ directory ∈ host.directories, place <+: directory) ∨
        ∃ file ∈ host.files, place <+: file.1.dropLast := by
  simp [isDirectory, or_assoc]

/-- What leads to a directory is a directory. -/
theorem isDirectory_of_above {near far : Place} (leads : near <+: far)
    (known : host.isDirectory far = true) : host.isDirectory near = true := by
  rw [isDirectory_iff] at known ⊢
  rcases known with working | ⟨directory, among, beyond⟩ | ⟨file, among, beyond⟩
  · exact .inl (leads.trans working)
  · exact .inr (.inl ⟨directory, among, leads.trans beyond⟩)
  · exact .inr (.inr ⟨file, among, leads.trans beyond⟩)

/-- A path begins at a directory. -/
theorem isDirectory_start (host : Host) (path : String) :
    host.isDirectory (host.start path) = true := by
  rw [isDirectory_iff, start]
  left
  split
  · exact List.nil_prefix
  · exact List.prefix_rfl

/-- No name leads further than one place. -/
theorem dropLast_follow_prefix_self (place : Place) (name : String) :
    (follow place name).dropLast <+: place := by
  unfold follow
  split
  · exact List.dropLast_prefix place
  · split
    · exact (List.dropLast_prefix _).trans (List.dropLast_prefix place)
    · simp

end Directories

section Ways

/-- A name leads on from a directory, unless it is too long. -/
theorem step_eq_ok_iff :
    host.step place name = .ok next ↔
      host.isDirectory place = true ∧ isLongName name = false ∧ follow place name = next := by
  unfold step
  cases host.isDirectory place with
  | true => cases isLongName name <;> simp
  | false => cases (host.textAt? place).isSome <;> simp

/-- A way leads on by its first name and then by the others. -/
theorem foldlM_step_cons :
    (name :: way).foldlM host.step place = .ok last ↔
      host.isDirectory place = true ∧ isLongName name = false ∧
        way.foldlM host.step (follow place name) = .ok last := by
  rw [List.foldlM_cons]
  cases stepped : host.step place name with
  | ok next =>
    obtain ⟨known, short, rfl⟩ := step_eq_ok_iff.mp stepped
    simp [known, short, bind, Except.bind]
  | error cause =>
    have stuck : ¬ (host.isDirectory place = true ∧ isLongName name = false) := by
      rintro ⟨known, short⟩
      rw [step_eq_ok_iff.mpr ⟨known, short, rfl⟩] at stepped
      cases stepped
    simp only [bind, Except.bind, reduceCtorEq, false_iff]
    exact fun ⟨known, short, _⟩ => stuck ⟨known, short⟩

/-- A way that goes on leads through a directory. -/
theorem isDirectory_of_foldlM (goesOn : way ≠ [])
    (leads : way.foldlM host.step place = .ok last) : host.isDirectory place = true := by
  obtain ⟨name, rest, rfl⟩ := List.exists_cons_of_ne_nil goesOn
  exact (foldlM_step_cons.mp leads).1

/-- What a way leads to lies in a directory. -/
theorem isDirectory_dropLast_of_foldlM (leads : way.foldlM host.step place = .ok last)
    (known : host.isDirectory place.dropLast = true) : host.isDirectory last.dropLast = true := by
  induction way generalizing place with
  | nil =>
    obtain rfl := Except.ok.inj leads
    exact known
  | cons name rest ih =>
    obtain ⟨here, -, leads⟩ := foldlM_step_cons.mp leads
    exact ih leads (isDirectory_of_above (dropLast_follow_prefix_self place name) here)

/-- On a way that leads somewhere there are no directories to make. -/
theorem makeDirectories_run (leads : way.foldlM host.step place = .ok last) :
    (makeDirectories place (way.filter (· != ".")).dropLast).run host = .ok () host := by
  induction way generalizing place with
  | nil => rfl
  | cons name rest ih =>
    obtain ⟨-, short, leads⟩ := foldlM_step_cons.mp leads
    by_cases still : name = "."
    · subst still
      exact ih leads
    · rw [List.filter_cons_of_pos (by simpa using still)]
      cases remaining : rest.filter (· != ".") with
      | nil => rfl
      | cons second others =>
        -- The way goes on behind this name, so what the name leads to is a directory.
        have goesOn : rest ≠ [] := by
          rintro rfl
          cases remaining
        have known := isDirectory_of_foldlM goesOn leads
        have made := ih leads
        rw [remaining] at made
        rw [List.dropLast_cons_of_ne_nil (by simp), makeDirectories]
        simpa [short, known] using made

/-- A path leads to a place when every place on the way is a directory. -/
def Leads (host : Host) (path : String) (place : Place) : Prop :=
  (names path).foldlM host.step (host.start path) = .ok place

/-- A path names a file where it leads, unless it is marked as a directory or leads to one. -/
theorem filePlace_eq_ok_iff :
    host.filePlace path = .ok place ↔
      host.Leads path place ∧ endsOpen path = false ∧ host.isDirectory place = false := by
  unfold filePlace Leads
  cases (names path).foldlM host.step (host.start path) with
  | error cause => simp [bind, Except.bind]
  | ok last =>
    by_cases refused : (endsOpen path || host.isDirectory last) = true
    · simp only [bind, Except.bind, refused, if_true, reduceCtorEq, Except.ok.injEq, false_iff]
      rintro ⟨rfl, opens, known⟩
      simp [opens, known] at refused
    · simp only [bind, Except.bind, refused, Bool.false_eq_true, if_false, Except.ok.injEq]
      refine ⟨?_, fun found => found.1⟩
      rintro rfl
      simpa using refused

/-- What a path leads to lies in a directory. -/
theorem Leads.isDirectory_dropLast (leads : host.Leads path place) :
    host.isDirectory place.dropLast = true :=
  isDirectory_dropLast_of_foldlM leads
    (isDirectory_of_above (List.dropLast_prefix _) (isDirectory_start host path))

/-- The path of a file leads to its place. -/
theorem leads_of_filePlace (found : host.filePlace path = .ok place) : host.Leads path place :=
  (filePlace_eq_ok_iff.mp found).1

end Ways

section Put

/-- A file that is put has its text, and all other files keep theirs. -/
theorem textAt?_put (host : Host) (place other : Place) (text : String) :
    (host.put place text).textAt? other =
      if other = place then some text else host.textAt? other := by
  unfold textAt? put
  by_cases same : other = place
  · subst same
    rw [if_pos rfl, List.lookup_cons_self]
  · rw [if_neg same, List.lookup_cons, beq_false_of_ne same]
    exact Source.lookup_filter (fun _ => by simpa using same) host.files

/-- A file put into a directory makes no other directory. -/
theorem isDirectory_put (known : host.isDirectory place.dropLast = true) (text : String)
    (other : Place) : (host.put place text).isDirectory other = host.isDirectory other := by
  rw [Bool.eq_iff_iff]
  constructor
  · intro leads
    rcases isDirectory_iff.mp leads with working | made | ⟨file, among, beyond⟩
    · exact isDirectory_iff.mpr (.inl working)
    · exact isDirectory_iff.mpr (.inr (.inl made))
    · rcases List.mem_cons.mp among with rfl | among
      · exact isDirectory_of_above beyond known
      · exact isDirectory_iff.mpr (.inr (.inr ⟨file, (List.mem_filter.mp among).1, beyond⟩))
  · intro leads
    rcases isDirectory_iff.mp leads with working | made | ⟨file, among, beyond⟩
    · exact isDirectory_iff.mpr (.inl working)
    · exact isDirectory_iff.mpr (.inr (.inl made))
    · refine isDirectory_iff.mpr (.inr (.inr ?_))
      by_cases same : file.1 = place
      · exact ⟨(place, text), List.mem_cons_self, same ▸ beyond⟩
      · have kept : file ∈ (host.put place text).files :=
          List.mem_cons_of_mem _ (List.mem_filter.mpr ⟨among, by simpa using same⟩)
        exact ⟨file, kept, beyond⟩

/-- Hosts with the same directories agree on the places of files. -/
theorem filePlace_congr {other : Host} (working : other.directory = host.directory)
    (directories : ∀ place, other.isDirectory place = host.isDirectory place) :
    other.filePlace path = .ok place ↔ host.filePlace path = .ok place := by
  have sameWay (way : List String) (start : Place) :
      way.foldlM other.step start = .ok place ↔ way.foldlM host.step start = .ok place := by
    induction way generalizing start with
    | nil => rfl
    | cons name rest ih => rw [foldlM_step_cons, foldlM_step_cons, directories, ih]
  have sameStart : other.start path = host.start path := by rw [start, start, working]
  rw [filePlace_eq_ok_iff, filePlace_eq_ok_iff, Leads, Leads, sameWay, sameStart, directories]

/-- Where paths lead does not depend on the texts of files. -/
theorem filePlace_put (known : host.isDirectory place.dropLast = true) (text : String) :
    (host.put place text).filePlace path = .ok next ↔ host.filePlace path = .ok next :=
  filePlace_congr rfl (isDirectory_put known text)

/-- A path is read as the text at the place that it names. -/
theorem read?_eq_some_iff :
    host.read? path = some text ↔
      ∃ place, host.filePlace path = .ok place ∧ host.textAt? place = some text := by
  unfold read?
  cases host.filePlace path <;> simp

/-- A file that was put is read. -/
theorem read?_put (found : host.filePlace path = .ok place) (text : String) :
    (host.put place text).read? path = some text := by
  have known := (leads_of_filePlace found).isDirectory_dropLast
  refine read?_eq_some_iff.mpr ⟨place, (filePlace_put known text).mpr found, ?_⟩
  rw [textAt?_put, if_pos rfl]

/-- A path that does not name the file that was put is read as before. -/
theorem read?_put_of_ne (known : host.isDirectory place.dropLast = true)
    (apart : host.filePlace path ≠ .ok place) (text : String) :
    (host.put place text).read? path = host.read? path := by
  refine Option.ext fun content => ?_
  rw [read?_eq_some_iff, read?_eq_some_iff]
  refine exists_congr fun other => ?_
  rw [filePlace_put known]
  refine and_congr_right fun found => ?_
  have differ : other ≠ place := by
    rintro rfl
    exact apart found
  rw [textAt?_put, if_neg differ]

end Put

section Changes

/-- Where a path leads to a place, nothing has to be made for it. -/
theorem prepare_run (leads : host.Leads path place) :
    (prepare path).run host =
      match host.filePlace path with
      | .ok place => .ok place host
      | .error cause => .error cause host := by
  have made : (makeDirectories (host.start path) (parentNames path)).run host = .ok () host :=
    makeDirectories_run leads
  cases found : host.filePlace path with
  | ok place => simp [prepare, made, found]
  | error cause =>
    simp only [prepare, EStateM.run_bind, EStateM.run_get, made, found]
    rfl

/-- To write where a file may be is to put the file there. -/
theorem write_run (found : host.filePlace path = .ok place) (text : String) :
    (write path text).run host = .ok () (host.put place text) := by
  simp [write, prepare_run (leads_of_filePlace found), found]

/-- To append where nothing has to be made adds to the file, or begins it. -/
theorem append_run (leads : host.Leads path place) (text : String) :
    (append path text).run host =
      match host.filePlace path with
      | .ok place => .ok () (host.put place ((host.textAt? place).getD "" ++ text))
      | .error cause => .error cause host := by
  cases found : host.filePlace path <;> simp [append, prepare_run leads, found]

end Changes

section Neighbours

variable {directory leaf : String}

/-- A name that leads from a place to what the place holds under it. -/
def IsOwnName (name : String) : Prop :=
  '/' ∉ name.toList ∧ name ∉ ["", ".", ".."]

/-- A name that leads from a directory to something in it. -/
def IsFileName (name : String) : Prop :=
  '/' ∉ name.toList ∧ name ∉ ["", ".", ".."] ∧ isLongName name = false

instance (name : String) : Decidable (IsFileName name) :=
  inferInstanceAs (Decidable (_ ∧ _))

/-- The name of a file is a proper one. -/
theorem IsFileName.own (single : IsFileName leaf) : IsOwnName leaf :=
  ⟨single.1, single.2.1⟩

namespace IsOwnName

/-- A proper name is a way of one name. -/
theorem names_eq (single : IsOwnName leaf) : names leaf = [leaf] := by
  obtain ⟨uncut, proper⟩ := single
  have filled : leaf ≠ "" := fun same => proper (by simp [same])
  simp [names, Text.pieces, Text.splitOn_of_not_mem uncut, filled]

/-- A proper name leads one place further. -/
theorem follow_eq (single : IsOwnName leaf) (place : Place) :
    follow place leaf = place ++ [leaf] := by
  obtain ⟨-, proper⟩ := single
  have moves : leaf ≠ "." ∧ leaf ≠ ".." := by
    constructor <;> rintro rfl <;> simp at proper
  simp [follow, moves]

/-- A proper name does not begin at the root. -/
theorem isAbsolute_eq_false (single : IsOwnName leaf) : isAbsolute leaf = false := by
  obtain ⟨uncut, -⟩ := single
  unfold isAbsolute Text.startsWith
  cases chars : leaf.toList with
  | nil => rfl
  | cons first rest =>
    have other : '/' ≠ first := by
      rintro rfl
      exact uncut (chars ▸ List.mem_cons_self)
    simp [List.isPrefixOf, other]

end IsOwnName

/-- The names of a joined path are those of its two parts. -/
theorem names_append_slash (front back : String) :
    names (front ++ "/" ++ back) = names front ++ names back := by
  have cut : (front ++ "/" ++ back).toList = front.toList ++ '/' :: back.toList := by simp
  simp [names, Text.pieces, cut, Text.splitOn_append_cons]

/-- A path marked as a directory ends with a separator. -/
theorem exists_of_endsOpen (opens : endsOpen path = true) : ∃ front, path = front ++ "/" := by
  obtain ⟨front, chars⟩ := List.getLast?_eq_some_iff.mp (eq_of_beq opens)
  refine ⟨String.ofList front, String.toList_injective ?_⟩
  rw [chars, String.toList_append, String.toList_ofList]
  rfl

/-- The names of a path taken from a directory are those of the directory and then its own. -/
theorem names_within (relative : isAbsolute leaf = false) :
    names (within directory leaf) = names directory ++ names leaf := by
  rw [within, if_neg (by simp [relative])]
  by_cases empty : directory = ""
  · subst empty
    rfl
  · by_cases opens : endsOpen directory = true
    · obtain ⟨front, rfl⟩ := exists_of_endsOpen opens
      have bare : names (front ++ "/") = names front := by
        simpa using (names_append_slash front "").trans (List.append_nil _)
      rw [if_pos (by simp [opens]), names_append_slash, bare]
    · rw [if_neg (by simp [empty, opens]), names_append_slash]

/-- Whether a path begins at the root is told by its first part. -/
theorem isAbsolute_append {front : String} (filled : front ≠ "") (back : String) :
    isAbsolute (front ++ back) = isAbsolute front := by
  unfold isAbsolute Text.startsWith
  rw [String.toList_append]
  cases chars : front.toList with
  | nil => exact absurd (String.toList_injective chars) filled
  | cons first rest => simp [List.isPrefixOf]

/-- A path taken from a directory begins where the directory's path does. -/
theorem start_within (relative : isAbsolute leaf = false) :
    host.start (within directory leaf) = host.start directory := by
  have same : isAbsolute (within directory leaf) = isAbsolute directory := by
    rw [within, if_neg (by simp [relative])]
    by_cases empty : directory = ""
    · subst empty
      exact relative
    · split
      · exact isAbsolute_append empty leaf
      · rw [String.append_assoc, isAbsolute_append empty]
  rw [start, start, same]

/-- A name leads to what lies directly in the directory that the path before it names. -/
theorem leads_within_iff (single : IsOwnName leaf) :
    host.Leads (within directory leaf) place ↔
      ∃ parent, host.Leads directory parent ∧ host.isDirectory parent = true ∧
        isLongName leaf = false ∧ parent ++ [leaf] = place := by
  have relative := single.isAbsolute_eq_false
  rw [Leads, names_within relative, start_within relative, single.names_eq, List.foldlM_append]
  unfold Leads
  cases (names directory).foldlM host.step (host.start directory) with
  | error cause => simp [bind, Except.bind]
  | ok parent =>
    change [leaf].foldlM host.step parent = .ok place ↔ _
    rw [foldlM_step_cons, single.follow_eq]
    simp [pure, Except.pure]

/-- Where a path leads to a file in a directory, it leads to any other file there. -/
theorem leads_within_of_leads_within {other : String} (single : IsFileName leaf)
    (alike : IsFileName other) (leads : host.Leads (within directory leaf) place) :
    ∃ neighbour, host.Leads (within directory other) neighbour ∧
      (leaf ≠ other → neighbour ≠ place) := by
  obtain ⟨parent, above, known, -, rfl⟩ := (leads_within_iff single.own).mp leads
  refine ⟨parent ++ [other],
    (leads_within_iff alike.own).mpr ⟨parent, above, known, alike.2.2, rfl⟩, ?_⟩
  intro differ same
  exact differ (by simpa using same.symm)

end Neighbours

end VmLaunch.Host
