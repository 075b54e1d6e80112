import VmLaunch.Firewall.Ensure
import VmLaunch.Http.Response
import VmLaunch.Proofs.Http.Status

/-!
# Telling a conflict from other failures

The transport puts the status of a refused request into the text of its fault, in front of
whatever the provider says, and `alreadyExists` looks for two phrases in that text. Neither
can begin in what the transport has written, except at the very beginning and for the status
of a conflict. So it is this status or the provider's own words that decide.
-/

namespace VmLaunch.Firewall

open Text

/-- What the transport writes of a refused request, up to the provider's words. -/
def report (code : Nat) (ending : String) : String :=
  "API request failed: " ++ Status.text code ++ ending

/-- How a report goes on: with the provider's words or not at all. -/
def reportEndings : List String :=
  ["", " - "]

/-- The phrases that tell of a conflict. -/
def conflictMarks : List String :=
  [existsPhrase, conflictPhrase]

/-- A report is the status and an ending behind its first words. -/
theorem toList_report (code : Nat) (ending : String) : (report code ending).toList =
    "API request failed: ".toList ++ (Status.text code).toList ++ ending.toList := by
  unfold report
  rw [String.toList_append, String.toList_append]

/-- A report is ASCII. -/
theorem report_ascii (code : Nat) {ending : String} (ends : ending ∈ reportEndings) :
    isAsciiText (report code ending) = true := by
  have starts : isAsciiText "API request failed: " = true := by decide
  have closes : ∀ ending ∈ reportEndings, isAsciiText ending = true := by decide
  unfold report
  rw [isAsciiText_append, isAsciiText_append]
  exact ⟨⟨starts, Status.ascii_text code⟩, closes ending ends⟩

/-- A report in lower case, letter by letter. -/
theorem report_lower (code : Nat) (ending : String) :
    (report code ending).toList.map Char.toLower = 'a' :: ("pi request failed: ".toList ++
      (Nat.toDigits 10 code ++ (' ' :: (Status.phrase code).toList.map Char.toLower ++
        ending.toList.map Char.toLower))) := by
  have starts : "API request failed: ".toList.map Char.toLower =
      'a' :: "pi request failed: ".toList :=
    rfl
  have digits : (Nat.toDigits 10 code).map Char.toLower = Nat.toDigits 10 code := by
    rw [List.map_congr_left fun c member => (Status.small_digit member).2, List.map_id']
  have space : Char.toLower ' ' = ' ' := rfl
  simp only [toList_report, List.map_append, Status.toList_text, starts, digits, space,
    List.map_cons, List.cons_append, List.append_assoc]

/-- How the phrases that tell of a conflict start. -/
def markStarts : List (List Char) :=
  [['a', 'l', 'r', 'e', 'a', 'd', 'y', ' ', 'e'], ['a', 'p', 'i']]

/-- Every mark of a conflict begins as one of those listed does. -/
theorem exists_markStart {mark : String} (sought : mark ∈ conflictMarks) :
    ∃ start ∈ markStarts, ∃ rest, mark.toList = start ++ rest := by
  have either : mark = existsPhrase ∨ mark = conflictPhrase := by
    simpa [conflictMarks] using sought
  rcases either with rfl | rfl
  · exact ⟨_, List.mem_cons_self, "xists".toList, rfl⟩
  · exact ⟨_, List.mem_cons_of_mem _ List.mem_cons_self, " request failed: 409".toList, rfl⟩

/-- No mark begins in the words of a status. -/
theorem repels_words {start : List Char} (starts : start ∈ markStarts) (code : Nat)
    {ending : String} (ends : ending ∈ reportEndings) :
    repels start (' ' :: (Status.phrase code).toList.map Char.toLower ++
      ending.toList.map Char.toLower) = true :=
  Status.phrase_forall (fun words => ∀ start ∈ markStarts, ∀ ending ∈ reportEndings,
      repels start (' ' :: words.toList.map Char.toLower ++ ending.toList.map Char.toLower) = true)
    (by decide +kernel) (by decide +kernel) code start starts ending ends

/-- No mark begins within a report; it may only be its beginning. -/
theorem mark_infix_iff {mark : String} (sought : mark ∈ conflictMarks) (code : Nat)
    {ending : String} (ends : ending ∈ reportEndings) (behind : List Char) :
    mark.toList <:+: (report code ending).toList.map Char.toLower ++ behind ↔
      mark.toList <+: (report code ending).toList.map Char.toLower ++ behind ∨
        mark.toList <:+: behind := by
  obtain ⟨start, starts, rest, split⟩ := exists_markStart sought
  have opening : repels start "pi request failed: ".toList = true := by
    have both : ∀ start ∈ markStarts, repels start "pi request failed: ".toList = true := by
      decide
    exact both start starts
  have digits : repels start (Nat.toDigits 10 code) = true := by
    have absent : 'a' ∉ Nat.toDigits 10 code := fun member =>
      absurd (Status.small_digit member).1 (by decide)
    have begins : ∃ rest, start = 'a' :: rest := by
      have both : ∀ start ∈ markStarts, start.head? = some 'a' := by decide
      exact List.head?_eq_some_iff.mp (both start starts)
    obtain ⟨rest, rfl⟩ := begins
    exact repels_of_not_mem absent
  rw [report_lower, List.cons_append, List.infix_cons_iff, List.append_assoc, List.append_assoc,
    split, infix_append_iff_of_repels (repels_append opening rest),
    infix_append_iff_of_repels (repels_append digits rest),
    infix_append_iff_of_repels (repels_append (repels_words starts code ends) rest)]

/-- A report begins with a mark only if its status is that of a conflict. -/
theorem mark_prefix_iff {code : Nat} (standard : code < 1000) (ending : String)
    (behind : List Char) :
    (¬ existsPhrase.toList <+: (report code ending).toList.map Char.toLower ++ behind) ∧
      (conflictPhrase.toList <+: (report code ending).toList.map Char.toLower ++ behind ↔
        code = Status.conflict) := by
  have split : conflictPhrase.toList =
      'a' :: ("pi request failed: ".toList ++ ['4', '0', '9']) :=
    rfl
  rw [report_lower]
  constructor
  · simp [existsPhrase]
  · rw [split, List.cons_append, List.cons_prefix_cons, List.append_assoc, List.append_assoc,
      List.prefix_append_right_inj]
    simpa using Status.conflict_prefix_iff standard _

/-- Whether the provider's own words tell of a conflict. -/
def TellsConflict (words : String) : Prop :=
  ∃ mark ∈ conflictMarks, contains (lower words) mark = true

/-- A report in lower case keeps apart what the transport and what the provider says. -/
theorem lower_report_append {code : Nat} {ending words : String} (ends : ending ∈ reportEndings)
    (apart : words ≠ "" → ending = " - ") :
    (lower (report code ending ++ words)).toList =
      (report code ending).toList.map Char.toLower ++ (lower words).toList := by
  have last : " - ".toList.getLast? = some ' ' := rfl
  have sealed : seals ' ' = true := by decide +kernel
  refine lower_append_of_ascii (report_ascii code ends) fun filled => ?_
  have final : (report code ending).toList.getLast? = some ' ' := by
    rw [toList_report, apart filled, List.getLast?_append, last]
    rfl
  rw [final, Option.all_some]
  exact sealed

/-- The status of a report decides, or else the words behind it. -/
theorem contains_report_iff {code : Nat} (standard : code < 1000) {ending words : String}
    (ends : ending ∈ reportEndings) (apart : words ≠ "" → ending = " - ") :
    (∃ mark ∈ conflictMarks, contains (lower (report code ending ++ words)) mark = true) ↔
      code = Status.conflict ∨ TellsConflict words := by
  obtain ⟨noExists, conflict⟩ := mark_prefix_iff standard ending (lower words).toList
  have found : ∀ mark ∈ conflictMarks,
      (contains (lower (report code ending ++ words)) mark = true ↔
        mark.toList <+: (report code ending).toList.map Char.toLower ++ (lower words).toList ∨
          contains (lower words) mark = true) := by
    intro mark sought
    rw [contains_iff_isInfix, contains_iff_isInfix, lower_report_append ends apart,
      mark_infix_iff sought code ends]
  constructor
  · rintro ⟨mark, sought, holds⟩
    rcases (found mark sought).mp holds with begins | told
    · have either : mark = existsPhrase ∨ mark = conflictPhrase := by
        simpa [conflictMarks] using sought
      rcases either with rfl | rfl
      · exact absurd begins noExists
      · exact .inl (conflict.mp begins)
    · exact .inr ⟨mark, sought, told⟩
  · rintro (status | ⟨mark, sought, told⟩)
    · have sought : conflictPhrase ∈ conflictMarks := by simp [conflictMarks]
      exact ⟨conflictPhrase, sought, (found _ sought).mpr (.inl (conflict.mpr status))⟩
    · exact ⟨mark, sought, (found mark sought).mpr (.inr told)⟩

/-- A fault says that something exists when its texts, in lower case, hold one of the marks. -/
theorem alreadyExists_iff {fault : Fault} :
    alreadyExists fault = true ↔
      ∃ mark ∈ conflictMarks, contains (lower fault.chain) mark = true := by
  simp [alreadyExists, conflictMarks]

/-- Words tell a conflict by one of two phrases, in whatever case. -/
theorem tellsConflict_iff {words : String} :
    TellsConflict words ↔ contains (lower words) existsPhrase = true ∨
      contains (lower words) conflictPhrase = true := by
  simp [TellsConflict, conflictMarks]

/-- No words tell no conflict. -/
theorem not_tellsConflict_empty : ¬ TellsConflict "" := by
  rw [tellsConflict_iff]
  decide

/-- A fault whose text is a report and what the provider says. -/
theorem alreadyExists_report_iff {fault : Fault} {code : Nat} (standard : code < 1000)
    {ending words : String} (ends : ending ∈ reportEndings) (apart : words ≠ "" → ending = " - ")
    (written : fault.chain = report code ending ++ words) :
    alreadyExists fault = true ↔ code = Status.conflict ∨ TellsConflict words := by
  rw [alreadyExists_iff, written]
  exact contains_report_iff standard ends apart

/-- The fault of a refused request tells of a conflict by its status or in the provider's words. -/
theorem alreadyExists_fault_iff {response : HttpResponse} (standard : response.status < 1000) :
    alreadyExists response.fault = true ↔ response.status = Status.conflict ∨
      ∃ message, failureText? response.content = some message ∧ TellsConflict message := by
  cases said : failureText? response.content with
  | some message =>
    have written : response.fault.chain = report response.status " - " ++ message := by
      unfold HttpResponse.fault
      rw [said]
      rfl
    rw [alreadyExists_report_iff standard (by simp [reportEndings]) (fun _ => rfl) written]
    simp
  | none =>
    have written : response.fault.chain = report response.status "" ++ "" := by
      unfold HttpResponse.fault report
      rw [said, String.append_empty, String.append_empty]
      rfl
    rw [alreadyExists_report_iff standard (by simp [reportEndings]) (fun filled => absurd rfl filled)
      written]
    simp [not_tellsConflict_empty]

/-- A conflict is always taken for one, whatever the provider says about it. -/
theorem alreadyExists_of_conflict (body : String) :
    ∃ fault, HttpResponse.answer ⟨Status.conflict, body⟩ = .error fault ∧
      alreadyExists fault = true := by
  have standard : Status.conflict < 1000 := by decide
  exact ⟨_, rfl, (alreadyExists_fault_iff standard).mpr (.inl rfl)⟩

/-- A request that was refused is taken for one whose subject exists exactly when its status is
that of a conflict or the provider says so itself. The digits of a conflict mean nothing where
they stand within a message. -/
theorem refused_exists_iff (response : HttpResponse)
    (refused : Status.isSuccess response.status = false) (standard : response.status < 1000) :
    ∃ fault, response.answer = .error fault ∧
      fault.chain = "API request failed: " ++ Status.text response.status ++
        (match failureText? response.content with
          | some message => " - " ++ message
          | none => "") ∧
      (alreadyExists fault = true ↔ response.status = 409 ∨
        ∃ message, failureText? response.content = some message ∧
          (contains (lower message) "already exists" = true ∨
            contains (lower message) "api request failed: 409" = true)) := by
  have answered : response.answer = .error response.fault := by
    unfold HttpResponse.answer
    rw [refused]
    rfl
  have told : ∀ message, TellsConflict message ↔
      contains (lower message) "already exists" = true ∨
        contains (lower message) "api request failed: 409" = true :=
    fun message => tellsConflict_iff
  refine ⟨response.fault, answered, ?_, ?_⟩
  · unfold HttpResponse.fault
    cases failureText? response.content with
    | some message => exact String.append_assoc
    | none => exact String.append_empty.symm
  · rw [alreadyExists_fault_iff standard]
    simp only [told]
    exact Iff.rfl

/-- A refusal about a project whose number holds the digits of a conflict. -/
def forbiddenResponse : HttpResponse where
  status := 403
  body := "\x7b\"error\": \x7b\"message\": \"Permission denied for projects/740940912\"\x7d\x7d"

/-- The digits of a conflict in the number of a project are no conflict. -/
theorem refused_exists_iff_forbiddenResponse :
    Status.isSuccess forbiddenResponse.status = false ∧ forbiddenResponse.status < 1000 ∧
      ∃ fault, forbiddenResponse.answer = .error fault ∧ alreadyExists fault = false := by
  have refused : Status.isSuccess forbiddenResponse.status = false := rfl
  have standard : forbiddenResponse.status < 1000 := by decide
  have said : failureText? forbiddenResponse.content =
      some "Permission denied for projects/740940912" := by
    decide +kernel
  obtain ⟨fault, answered, -, decides⟩ := refused_exists_iff forbiddenResponse refused standard
  refine ⟨refused, standard, fault, answered, ?_⟩
  rw [← Bool.not_eq_true, decides, said]
  rintro (status | ⟨message, same, told⟩)
  · exact absurd status (by decide)
  · cases same
    exact absurd told (by decide +kernel)

end VmLaunch.Firewall
