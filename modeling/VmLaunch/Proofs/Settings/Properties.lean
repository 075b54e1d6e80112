import Mathlib.Data.List.Induction
import VmLaunch.Proofs.Text.Occurrence
import VmLaunch.Settings.Properties

/-!
# Reading properties

The value of a property is that of the first line which assigns one to its key below the heading
of its section. Which section a line belongs to is told by the nearest heading before it, however
often sections end and begin again, so the reader needs to know no more of the lines before than
whether that heading is the one it looks for. Lines that say nothing, and lines of other sections,
may stand anywhere.
-/

namespace VmLaunch.Properties

open Text

variable {name heading key value line : String} {front inserted back lines : List String}
  {inside : Bool}

section Lines

/-- A line that says nothing: blanks or a comment. -/
def IsRemark (line : String) : Prop :=
  trim line = "" ∨ (trim line).toList.head? = some '#' ∨ (trim line).toList.head? = some ';'

/-- A line that begins a section, whichever it is. -/
def IsHeading (line : String) : Prop :=
  (trim line).toList.head? = some '['

instance (line : String) : Decidable (IsRemark line) :=
  inferInstanceAs (Decidable (_ ∨ _))

instance (line : String) : Decidable (IsHeading line) :=
  inferInstanceAs (Decidable (_ = _))

/-- A line assigns a value to a key. It is cut at the first sign of equality, and a value of which
nothing is left is none. -/
structure Assigns (line key value : String) : Prop where
  speaks : ¬ IsRemark line
  property : ¬ IsHeading line
  cut : ∃ left right, trim line = left ++ "=" ++ right ∧ '=' ∉ left.toList ∧ trim left = key ∧
    trim right = value
  filled : value ≠ ""

/-- The check of a trimmed line is whether it is a remark. -/
theorem isRemark_iff : isRemark (trim line) = true ↔ IsRemark line := by
  unfold isRemark IsRemark
  rw [← String.toList_eq_nil_iff]
  cases (trim line).toList <;> simp

/-- A heading is told by the bracket in front. -/
theorem startsWith_bracket_iff : startsWith (trim line) "[" = true ↔ IsHeading line := by
  have bracket : "[".toList = ['['] := rfl
  unfold startsWith IsHeading
  rw [bracket, List.isPrefixOf_iff_prefix]
  cases (trim line).toList with
  | nil => simp
  | cons c rest => simp [List.cons_prefix_cons, @eq_comm _ '[']

/-- No heading is a remark. -/
theorem IsHeading.not_isRemark (begins : IsHeading line) : ¬ IsRemark line := by
  unfold IsHeading at begins
  rintro (empty | number | semicolon)
  · simp [empty] at begins
  · simp [begins] at number
  · simp [begins] at semicolon

/-- The heading of a section is a heading. -/
theorem isHeading_of_trim_eq (same : trim line = headingOf name) : IsHeading line := by
  have begins : (headingOf name).toList.head? = some '[' := by simp [headingOf]
  rw [IsHeading, same, begins]

/-- A remark is read as nothing. -/
theorem of_eq_nothing (remark : IsRemark line) : Line.of line = .nothing := by
  simp only [Line.of]
  rw [if_pos (isRemark_iff.mpr remark)]

/-- A heading is read as its trimmed text. -/
theorem of_eq_heading (begins : IsHeading line) : Line.of line = .heading (trim line) := by
  simp only [Line.of]
  rw [if_neg (mt isRemark_iff.mp begins.not_isRemark), if_pos (startsWith_bracket_iff.mpr begins)]

/-- A line that is no heading assigns a text, be it empty, to a key, or it says nothing. -/
theorem of_eq_cut (speaks : ¬ IsRemark line) (property : ¬ IsHeading line) :
    Line.of line =
      match cut? '=' (trim line) with
      | some (left, right) => .property (trim left) (trim right)
      | none => .nothing := by
  have remark := mt isRemark_iff.mp speaks
  have bracket := mt startsWith_bracket_iff.mp property
  cases parts : cut? '=' (trim line) <;> simp [Line.of, remark, bracket, parts]

end Lines

section Reading

/-- Whether the lines behind a line stand below the heading, when `inside` says it of the line. -/
def turn (heading : String) (inside : Bool) : Line → Bool
  | .heading text => text == heading
  | _ => inside

/-- What a line says of a key. -/
def said (key : String) (inside : Bool) : Line → Option String
  | .property name value => if inside && name == key && value != "" then some value else none
  | _ => none

/-- A search takes what the first line says, or goes on behind it. -/
theorem search_cons (heading key : String) (inside : Bool) (line : Line) (rest : List Line) :
    search heading key inside (line :: rest) =
      (said key inside line).or (search heading key (turn heading inside line) rest) := by
  cases line with
  | nothing => rfl
  | heading text => rfl
  | property name value =>
    simp only [search, said, turn]
    split <;> rfl

/-- A search goes on behind some lines as if it began there, below the heading or not. -/
theorem search_append (heading key : String) (inside : Bool) (front back : List Line) :
    search heading key inside (front ++ back) =
      (search heading key inside front).or
        (search heading key (front.foldl (turn heading) inside) back) := by
  induction front generalizing inside with
  | nil => rfl
  | cons line rest inductionHypothesis =>
    rw [List.cons_append, search_cons, search_cons, inductionHypothesis, Option.or_assoc]
    rfl

/-- Behind a heading the search stands below it or it does not. -/
theorem turn_of_heading (heading : String) (inside : Bool) (begins : IsHeading line) :
    turn heading inside (Line.of line) = (trim line == heading) := by
  rw [of_eq_heading begins]
  rfl

/-- No other line changes where the search stands. -/
theorem turn_of_not_heading (heading : String) (inside : Bool) (property : ¬ IsHeading line) :
    turn heading inside (Line.of line) = inside := by
  by_cases remark : IsRemark line
  · rw [of_eq_nothing remark]
    rfl
  · rw [of_eq_cut remark property]
    cases cut? '=' (trim line) <;> rfl

/-- A line says a value when the search stands below the heading and the line assigns it. -/
theorem said_eq_some_iff :
    said key inside (Line.of line) = some value ↔ inside = true ∧ Assigns line key value := by
  by_cases remark : IsRemark line
  · rw [of_eq_nothing remark]
    exact iff_of_false (by simp [said]) fun answers => answers.2.speaks remark
  by_cases begins : IsHeading line
  · rw [of_eq_heading begins]
    exact iff_of_false (by simp [said]) fun answers => answers.2.property begins
  have assigns : Assigns line key value ↔
      (∃ left right, cut? '=' (trim line) = some (left, right) ∧ trim left = key ∧
        trim right = value) ∧ value ≠ "" := by
    simp only [cut?_eq_some_iff, and_assoc]
    constructor
    · exact fun told => ⟨told.cut, told.filled⟩
    · exact fun told => ⟨remark, begins, told.1, told.2⟩
  rw [of_eq_cut remark begins, assigns]
  cases cut? '=' (trim line) with
  | none => simp [said]
  | some parts =>
    simp only [said, Option.ite_none_right_eq_some, Bool.and_eq_true, beq_iff_eq, bne_iff_ne,
      Option.some.injEq, Prod.ext_iff]
    constructor
    · rintro ⟨⟨⟨below, rfl⟩, filled⟩, rfl⟩
      exact ⟨below, ⟨_, _, ⟨rfl, rfl⟩, rfl, rfl⟩, filled⟩
    · rintro ⟨below, ⟨_, _, ⟨rfl, rfl⟩, rfl, rfl⟩, filled⟩
      exact ⟨⟨⟨below, rfl⟩, filled⟩, rfl⟩

end Reading

section Sections

/-- The last heading of some lines is that of a section, so what follows belongs to it. -/
def EndsIn (name : String) (front : List String) : Prop :=
  ∃ before heading within, front = before ++ heading :: within ∧ trim heading = "[" ++ name ++ "]" ∧
    ∀ line ∈ within, ¬ IsHeading line

/-- No section begins before the first line. -/
theorem not_endsIn_nil : ¬ EndsIn name [] := by
  rintro ⟨before, heading, within, split, -⟩
  simp at split

/-- A line among some is the last of them, or it stands among those before the last. -/
theorem concat_eq_append_cons_iff {before : List String} {other : String} :
    front ++ [line] = before ++ other :: back ↔
      (front = before ∧ line = other ∧ back = []) ∨
        ∃ rest, front = before ++ other :: rest ∧ back = rest ++ [line] := by
  constructor
  · intro split
    rcases List.eq_nil_or_concat back with rfl | ⟨rest, last, rfl⟩
    · obtain ⟨same, final⟩ := List.append_inj' split rfl
      exact .inl ⟨same, List.singleton_inj.mp final, rfl⟩
    · rw [List.concat_eq_append, ← List.cons_append, ← List.append_assoc] at split
      obtain ⟨same, final⟩ := List.append_inj' split rfl
      exact .inr ⟨rest, same, by rw [List.concat_eq_append, final]⟩
  · rintro (⟨rfl, rfl, rfl⟩ | ⟨rest, rfl, rfl⟩)
    · rfl
    · simp

/-- One more line begins a section, or stays in it by being no heading. -/
theorem endsIn_concat_iff :
    EndsIn name (front ++ [line]) ↔
      trim line = headingOf name ∨ ¬ IsHeading line ∧ EndsIn name front := by
  constructor
  · rintro ⟨before, heading, within, split, same, plain⟩
    rcases concat_eq_append_cons_iff.mp split with ⟨-, rfl, -⟩ | ⟨rest, rfl, rfl⟩
    · exact .inl same
    · obtain ⟨others, last⟩ := List.forall_mem_append.mp plain
      exact .inr ⟨last line List.mem_cons_self, before, heading, rest, rfl, same, others⟩
  · rintro (same | ⟨property, before, heading, within, rfl, same, plain⟩)
    · exact ⟨front, line, [], rfl, same, by simp⟩
    · refine ⟨before, heading, within ++ [line], by simp, same, ?_⟩
      exact List.forall_mem_append.mpr ⟨plain, List.forall_mem_singleton.mpr property⟩

/-- Whether a search that began before some lines stands below the heading behind them. -/
def standing (name : String) (front : List String) : Bool :=
  (front.map Line.of).foldl (turn (headingOf name)) false

/-- Where the search stands behind one more line is up to that line. -/
theorem standing_concat (name : String) (front : List String) (line : String) :
    standing name (front ++ [line]) = turn (headingOf name) (standing name front) (Line.of line) := by
  simp [standing]

/-- The search stands below the heading when the last heading was that of the section. -/
theorem standing_iff : standing name front = true ↔ EndsIn name front := by
  induction front using List.reverseRecOn with
  | nil => exact iff_of_false (by simp [standing]) not_endsIn_nil
  | append_singleton front line inductionHypothesis =>
    rw [standing_concat, endsIn_concat_iff, ← inductionHypothesis]
    by_cases begins : IsHeading line
    · rw [turn_of_heading _ _ begins, beq_iff_eq]
      simp [begins]
    · have other : trim line ≠ headingOf name := mt isHeading_of_trim_eq begins
      rw [turn_of_not_heading _ _ begins]
      simp [begins, other]

instance (name : String) (front : List String) : Decidable (EndsIn name front) :=
  decidable_of_iff _ standing_iff

end Sections

section Values

/-- Behind some lines a line tells the value of a key in a section. -/
structure Answers (name key : String) (front : List String) (line value : String) : Prop where
  below : EndsIn name front
  assigns : Assigns line key value

/-- No line of some tells the value of a key in a section. -/
def Silent (name key : String) (lines : List String) : Prop :=
  ∀ front line back, lines = front ++ line :: back → ∀ value, ¬ Answers name key front line value

/-- The value of a key that some lines tell. -/
def valueOf? (name key : String) (lines : List String) : Option String :=
  search (headingOf name) key false (lines.map Line.of)

/-- What is told by lines in two parts is told by the first part, or by the second from where the
first one ends. -/
theorem valueOf?_append (name key : String) (front back : List String) :
    valueOf? name key (front ++ back) =
      (valueOf? name key front).or
        (search (headingOf name) key (standing name front) (back.map Line.of)) := by
  rw [valueOf?, List.map_append, search_append]
  rfl

/-- One more line tells a value only where no line before it did. -/
theorem valueOf?_concat (name key : String) (front : List String) (line : String) :
    valueOf? name key (front ++ [line]) =
      (valueOf? name key front).or (said key (standing name front) (Line.of line)) := by
  rw [valueOf?_append, List.map_singleton, search_cons, search, Option.or_none]

/-- A line says a value behind others when it tells it there. -/
theorem said_standing_iff :
    said key (standing name front) (Line.of line) = some value ↔
      Answers name key front line value := by
  rw [said_eq_some_iff, standing_iff]
  exact ⟨fun told => ⟨told.1, told.2⟩, fun answers => ⟨answers.below, answers.assigns⟩⟩

/-- Lines are silent when those before the last are and the last tells nothing. -/
theorem silent_concat_iff :
    Silent name key (front ++ [line]) ↔
      Silent name key front ∧ ∀ value, ¬ Answers name key front line value := by
  constructor
  · refine fun silent => ⟨fun before other back split => ?_, silent front line [] rfl⟩
    exact silent before other (back ++ [line]) (by simp [split])
  · rintro ⟨silent, final⟩ before other back split
    rcases concat_eq_append_cons_iff.mp split with ⟨rfl, rfl, -⟩ | ⟨rest, earlier, -⟩
    · exact final
    · exact silent before other rest earlier

/-- There is no value where all lines are silent. -/
theorem valueOf?_eq_none_iff : valueOf? name key lines = none ↔ Silent name key lines := by
  induction lines using List.reverseRecOn with
  | nil => exact iff_of_true rfl fun front line back split => by simp at split
  | append_singleton front line inductionHypothesis =>
    rw [valueOf?_concat, Option.or_eq_none_iff, inductionHypothesis, silent_concat_iff,
      Option.eq_none_iff_forall_ne_some]
    simp only [ne_eq, said_standing_iff]

/-- The value is that of the first line which tells one. -/
theorem valueOf?_eq_some_iff :
    valueOf? name key lines = some value ↔
      ∃ front line back, lines = front ++ line :: back ∧ Silent name key front ∧
        Answers name key front line value := by
  constructor
  · intro found
    induction lines using List.reverseRecOn with
    | nil => cases found
    | append_singleton front line inductionHypothesis =>
      rw [valueOf?_concat] at found
      cases earlier : valueOf? name key front with
      | some first =>
        obtain rfl : first = value := by simpa [earlier] using found
        obtain ⟨before, other, back, rfl, silent, answers⟩ := inductionHypothesis earlier
        exact ⟨before, other, back ++ [line], by simp, silent, answers⟩
      | none =>
        rw [earlier, Option.none_or] at found
        exact ⟨front, line, [], rfl, valueOf?_eq_none_iff.mp earlier, said_standing_iff.mp found⟩
  · rintro ⟨front, line, back, rfl, silent, answers⟩
    rw [valueOf?_append, valueOf?_eq_none_iff.mpr silent, List.map_cons, search_cons,
      said_standing_iff.mpr answers]
    rfl

end Values

section Insertions

/-- Lines that say nothing, or that stand outside the section, leave a search where it was. -/
theorem search_of_foreign (heading key : String)
    (foreign : ∀ line ∈ inserted, IsRemark line ∨ ¬ IsHeading line ∧ inside = false) :
    search heading key inside (inserted.map Line.of) = none ∧
      (inserted.map Line.of).foldl (turn heading) inside = inside := by
  induction inserted with
  | nil => exact ⟨rfl, rfl⟩
  | cons line rest inductionHypothesis =>
    obtain ⟨first, others⟩ := List.forall_mem_cons.mp foreign
    obtain ⟨quiet, stands⟩ := inductionHypothesis others
    have property : ¬ IsHeading line := by
      rcases first with remark | ⟨property, -⟩
      · exact fun begins => begins.not_isRemark remark
      · exact property
    have untold : said key inside (Line.of line) = none := by
      refine Option.eq_none_iff_forall_ne_some.mpr fun value told => ?_
      obtain ⟨below, assigns⟩ := said_eq_some_iff.mp told
      rcases first with remark | ⟨-, outside⟩
      · exact assigns.speaks remark
      · rw [outside] at below
        cases below
    have turned := turn_of_not_heading heading inside property
    constructor
    · rw [List.map_cons, search_cons, untold, turned, quiet]
      rfl
    · rw [List.map_cons, List.foldl_cons, turned, stands]

/-- A search through lines that begin with a heading does not depend on what stood before. -/
theorem search_of_heading (begins : ∀ line ∈ back.head?, IsHeading line) (inside other : Bool) :
    search heading key inside (back.map Line.of) = search heading key other (back.map Line.of) := by
  cases back with
  | nil => rfl
  | cons line rest =>
    have opens : IsHeading line := begins line rfl
    rw [List.map_cons, search_cons, search_cons, turn_of_heading _ _ opens, turn_of_heading _ _ opens,
      of_eq_heading opens]
    rfl

/-- Lines that may stand between others without a change to what is read of a section. -/
inductive Foreign (name : String) (front back : List String) : List String → Prop where
  | remarks {inserted : List String} (remarks : ∀ line ∈ inserted, IsRemark line) :
      Foreign name front back inserted
  | outside {inserted : List String} (outside : ¬ EndsIn name front)
      (plain : ∀ line ∈ inserted, ¬ IsHeading line) : Foreign name front back inserted
  | otherSection {heading : String} {below : List String} (begins : IsHeading heading)
      (other : trim heading ≠ "[" ++ name ++ "]") (plain : ∀ line ∈ below, ¬ IsHeading line)
      (ends : ∀ line ∈ back.head?, IsHeading line) : Foreign name front back (heading :: below)

/-- Nothing is found in foreign lines, and what follows them is read as without them. -/
theorem Foreign.search_eq (foreign : Foreign name front back inserted) (key : String) :
    search (headingOf name) key (standing name front) (inserted.map Line.of) = none ∧
      search (headingOf name) key (standing name (front ++ inserted)) (back.map Line.of) =
        search (headingOf name) key (standing name front) (back.map Line.of) := by
  have behind (inserted : List String) : standing name (front ++ inserted) =
      (inserted.map Line.of).foldl (turn (headingOf name)) (standing name front) := by
    simp [standing]
  cases foreign with
  | remarks remarks =>
    obtain ⟨quiet, stands⟩ := search_of_foreign (headingOf name) key
      fun line member => .inl (remarks line member)
    exact ⟨quiet, by rw [behind, stands]⟩
  | outside outside plain =>
    have below : standing name front = false := by
      rwa [← Bool.not_eq_true, standing_iff]
    obtain ⟨quiet, stands⟩ := search_of_foreign (headingOf name) key
      fun line member => .inr ⟨plain line member, below⟩
    exact ⟨quiet, by rw [behind, stands]⟩
  | @otherSection heading below begins other plain ends =>
    have closes : turn (headingOf name) (standing name front) (Line.of heading) = false := by
      rw [turn_of_heading _ _ begins]
      exact beq_false_of_ne other
    have quiet := search_of_foreign (headingOf name) key
      fun line member => .inr ⟨plain line member, rfl⟩
    refine ⟨?_, search_of_heading ends _ _⟩
    rw [List.map_cons, search_cons, closes, quiet.1, of_eq_heading begins]
    rfl

/-- Foreign lines change no value. -/
theorem valueOf?_insert (foreign : Foreign name front back inserted) (key : String) :
    valueOf? name key (front ++ inserted ++ back) = valueOf? name key (front ++ back) := by
  obtain ⟨quiet, onward⟩ := foreign.search_eq key
  rw [valueOf?_append, valueOf?_append, onward, quiet, Option.or_none, ← valueOf?_append]

end Insertions

/-- The value of a key in a section is that of the first line which assigns it one below the
heading of the section, and there is none if no line does. Foreign lines change nothing: comments
and blank lines anywhere, keys of other sections wherever these are, and whole sections of other
names in front of a heading or at the end. -/
theorem first_assignment_counts (text name key : String) :
    (∀ value, value? text name key = some value ↔
      ∃ front line back, Text.lines text = front ++ line :: back ∧ Silent name key front ∧
        Answers name key front line value) ∧
    (value? text name key = none ↔ Silent name key (Text.lines text)) ∧
    ∀ longer front inserted back, Text.lines text = front ++ back →
      Text.lines longer = front ++ inserted ++ back → Foreign name front back inserted →
      value? longer name key = value? text name key := by
  refine ⟨fun value => valueOf?_eq_some_iff, valueOf?_eq_none_iff, ?_⟩
  intro longer front inserted back whole extended foreign
  change valueOf? name key (Text.lines longer) = valueOf? name key (Text.lines text)
  rw [whole, extended, valueOf?_insert foreign]

/-- A section that begins twice, at first without a value for its key. -/
def reopenedText : String :=
  "[core]\r\nproject =\r\n[compute]\n [core] \n project = a=b\nproject = c"

/-- The same text with a comment and a key of the section between. -/
def widenedText : String :=
  "[core]\r\nproject =\r\n[compute]\n; x\nproject = d\n [core] \n project = a=b\nproject = c"

/-- The key is told where its section begins again, and no key of the section between counts. -/
theorem first_assignment_counts_reopenedText :
    value? reopenedText "core" "project" = some "a=b" ∧
      value? widenedText "core" "project" = some "a=b" := by
  have told : value? reopenedText "core" "project" = some "a=b" := by decide +kernel
  have whole : Text.lines reopenedText =
      ["[core]", "project =", "[compute]"] ++ [" [core] ", " project = a=b", "project = c"] := by
    decide +kernel
  have extended : Text.lines widenedText =
      ["[core]", "project =", "[compute]"] ++ ["; x", "project = d"] ++
        [" [core] ", " project = a=b", "project = c"] := by
    decide +kernel
  have foreign : Foreign "core" ["[core]", "project =", "[compute]"]
      [" [core] ", " project = a=b", "project = c"] ["; x", "project = d"] :=
    .outside (by decide +kernel) (by decide +kernel)
  have same := (first_assignment_counts reopenedText "core" "project").2.2 widenedText _ _ _ whole
    extended foreign
  exact ⟨told, same.trans told⟩

end VmLaunch.Properties
