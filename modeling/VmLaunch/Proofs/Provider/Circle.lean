import Mathlib.Data.List.Nodup
import Mathlib.Data.List.Perm.Subperm
import Mathlib.Logic.Relation
import VmLaunch.Proofs.Catalog.Fixed
import VmLaunch.Proofs.Provider.Walk
import VmLaunch.Proofs.Text.Percent

/-!
# Circles of pages

A page that names its own token ends a walk, but pages that lead to each other in a circle
do not. With a provider whose answers are fixed, a walk is its `trail` of tokens: it ends
and asks for no page twice, unless it comes to a circle, and then it goes round for ever.
-/

namespace VmLaunch

/-- An environment whose observer follows a walk or a wait for so many rounds. -/
def Environment.following (env : Environment) (rounds : Nat) : Environment :=
  { env with patience := rounds }

namespace Page

/-- Lists have different paths for different tokens. -/
theorem path_injective {list : String} {token other : Option String}
    (same : path list token = path list other) : token = other := by
  have longer : ∀ text : String, path list (some text) ≠ list := by
    intro text equal
    have lengths := congrArg String.length equal
    have mark : 0 < "pageToken=".length := by decide
    simp only [path, String.length_append] at lengths
    omega
  cases token with
  | none =>
    cases other with
    | none => rfl
    | some text => exact absurd same.symm (longer text)
  | some text =>
    cases other with
    | none => exact absurd same (longer text)
    | some otherText =>
      have texts := congrArg String.toList same
      simp only [path, String.toList_append] at texts
      have encoded := String.toList_inj.mp (List.append_cancel_left texts)
      exact congrArg some (Percent.encode_injective rfl encoded)

variable {α : Type} (answers : String → Answer) (read : Json → Option α) (list : String)

/-- The token that the page of a token leads to; none when a walk ends with that page. -/
def next? (token : Option String) : Option String :=
  match judge read list (answers (path list token)) with
  | .ok page => continuation token page.next
  | .error _ => none

/-- The page of one token leads to that of another. -/
def LeadsTo (token other : Option String) : Prop :=
  ∃ next, next? answers read list token = some next ∧ other = some next

/-- A walk from the first page comes to a page that leads back to itself. -/
def Circles : Prop :=
  ∃ token, Relation.ReflTransGen (LeadsTo answers read list) none token ∧
    Relation.TransGen (LeadsTo answers read list) token token

/-- The tokens that a walk of so many rounds asks with. -/
def trail : Nat → Option String → List (Option String)
  | 0, _ => []
  | rounds + 1, token =>
    token :: match next? answers read list token with
      | some next => trail rounds (some next)
      | none => []

/-- Some page of the list names a token. -/
def Names (token : String) : Prop :=
  ∃ used page, judge read list (answers (path list used)) = .ok page ∧ page.next = some token

variable {answers read list}

/-- A walk goes on with the token that it was told. -/
theorem continuation_eq_some {used next : Option String} {token : String}
    (leads : continuation used next = some token) : next = some token := by
  cases next with
  | none => cases leads
  | some named =>
    simp only [continuation] at leads
    split at leads
    · cases leads
    · exact leads

/-- Every token that is led to is named. -/
theorem LeadsTo.names {token other : Option String}
    (leads : LeadsTo answers read list token other) :
    ∃ next, other = some next ∧ Names answers read list next := by
  obtain ⟨next, found, rfl⟩ := leads
  refine ⟨next, rfl, ?_⟩
  unfold next? at found
  cases judged : judge read list (answers (path list token)) with
  | error cause => simp [judged] at found
  | ok page =>
    rw [judged] at found
    exact ⟨token, page, judged, continuation_eq_some found⟩

/-- What is on a trail is led to from its beginning. -/
theorem reaches_of_mem_trail {rounds : Nat} {token other : Option String}
    (member : other ∈ trail answers read list rounds token) :
    Relation.ReflTransGen (LeadsTo answers read list) token other := by
  induction rounds generalizing token with
  | zero => simp [trail] at member
  | succ rounds inductionHypothesis =>
    rcases List.mem_cons.mp member with rfl | later
    · exact .refl
    · cases leads : next? answers read list token with
      | none => simp [leads] at later
      | some next =>
        rw [leads] at later
        exact .head ⟨next, leads, rfl⟩ (inductionHypothesis later)

/-- A trail that meets no circle repeats no token. -/
theorem nodup_trail {token : Option String}
    (straight : ∀ other, Relation.ReflTransGen (LeadsTo answers read list) token other →
      ¬ Relation.TransGen (LeadsTo answers read list) other other) (rounds : Nat) :
    (trail answers read list rounds token).Nodup := by
  induction rounds generalizing token with
  | zero => simp [trail]
  | succ rounds inductionHypothesis =>
    cases leads : next? answers read list token with
    | none => simp [trail, leads]
    | some next =>
      have first : LeadsTo answers read list token (some next) := ⟨next, leads, rfl⟩
      simp only [trail, leads]
      refine List.nodup_cons.mpr ⟨fun member => ?_, inductionHypothesis fun other reached => ?_⟩
      · exact straight token .refl (.head' first (reaches_of_mem_trail member))
      · exact straight other (.head first reached)

/-- A trail that leads to a circle has no end. -/
theorem length_trail_of_circle {token other : Option String}
    (reached : Relation.ReflTransGen (LeadsTo answers read list) token other)
    (circle : Relation.TransGen (LeadsTo answers read list) other other) (rounds : Nat) :
    (trail answers read list rounds token).length = rounds := by
  induction rounds generalizing token with
  | zero => rfl
  | succ rounds inductionHypothesis =>
    -- The token leads on, either towards the circle or around it.
    have onward : ∃ middle, LeadsTo answers read list token middle ∧
        Relation.ReflTransGen (LeadsTo answers read list) middle other := by
      rcases Relation.ReflTransGen.cases_head reached with rfl | ⟨middle, first, rest⟩
      · exact Relation.TransGen.head'_iff.mp circle
      · exact ⟨middle, first, rest⟩
    obtain ⟨_, ⟨next, leads, rfl⟩, rest⟩ := onward
    simp [trail, leads, inductionHypothesis rest]

/-- A trail without repetitions is no longer than the tokens that are named, and one more. -/
theorem length_trail_le_of_nodup {tokens : List String} {rounds : Nat}
    (named : ∀ token, Names answers read list token → token ∈ tokens)
    (distinct : (trail answers read list rounds none).Nodup) :
    (trail answers read list rounds none).length ≤ tokens.length + 1 := by
  have among : trail answers read list rounds none ⊆ none :: tokens.map some := by
    intro token member
    rcases Relation.ReflTransGen.cases_tail (reaches_of_mem_trail member) with rfl | ⟨_, _, last⟩
    · exact List.mem_cons_self
    · obtain ⟨next, rfl, names⟩ := last.names
      exact List.mem_cons_of_mem _ (List.mem_map_of_mem (named next names))
  simpa using (distinct.subperm among).length_le

/-- The page that a token is asked with leads on, or ends the walk. -/
theorem next?_of_answer (read : Json → Option α) {token : Option String} {answer : Answer}
    (answered : answer = answers (path list token)) :
    next? answers read list token =
      match judge read list answer with
      | .ok page => continuation token page.next
      | .error _ => none := by
  rw [next?, answered]

/-- With fixed answers, a walk asks for the pages of its trail. It comes to no end exactly if
the trail goes on after it. -/
theorem Walking.trail {rounds : Nat} {token : Option String} {items : List α}
    {exchanges : List Exchange} {outcome : Outcome (List α)}
    (walking : Walking read list rounds token items exchanges outcome)
    (agree : ∀ exchange ∈ exchanges, ∀ target, exchange.call = .get target →
      exchange.answer = answers target) :
    exchanges.map Exchange.call =
        (Page.trail answers read list rounds token).map (fun token => Call.get (path list token)) ∧
      (outcome = .unfinished ↔
        (Page.trail answers read list (rounds + 1) token).length = rounds + 1) := by
  induction walking with
  | @unfinished token items =>
    cases leads : next? answers read list token <;> simp [Page.trail, leads]
  | @refused rounds token items exchange cause asked judged =>
    have ends := next?_of_answer read (agree exchange List.mem_cons_self _ asked)
    simp only [judged] at ends
    simp [Page.trail, ends, asked]
  | @last rounds token items exchange page asked judged closing =>
    have ends := next?_of_answer read (agree exchange List.mem_cons_self _ asked)
    simp only [judged, closing] at ends
    simp [Page.trail, ends, asked]
  | @more rounds token items exchange page next exchanges outcome asked judged leads after
      inductionHypothesis =>
    have onward := next?_of_answer read (agree exchange List.mem_cons_self _ asked)
    simp only [judged, leads] at onward
    obtain ⟨calls, unfinished⟩ := inductionHypothesis fun other member =>
      agree other (List.mem_cons_of_mem _ member)
    rw [unfinished]
    simp [Page.trail, onward, asked, calls]

section Fetch

/-- What a list leads to when it is followed for so many rounds. -/
def followed (env : Environment) (read : Json → Option α) (list : String) (world : World)
    (rounds : Nat) : Outcome (List α) :=
  (fetchAll (env.following rounds) read list world).1

/-- The calls that are made for a list when it is followed for so many rounds. -/
def asked (env : Environment) (read : Json → Option α) (list : String) (world : World)
    (rounds : Nat) : List Call :=
  ((fetchAll (env.following rounds) read list).made world).map Exchange.call

/-- A list is fetched with finitely many calls, of which no two are the same, and comes to
an end with its items or an error. -/
structure EndsOnce (env : Environment) (read : Json → Option α) (list : String) (world : World) :
    Prop where
  finite : ∃ bound, ∀ rounds, (asked env read list world rounds).length ≤ bound
  once : ∀ rounds, (asked env read list world rounds).Nodup
  ends : ∃ enough, ∀ rounds, enough ≤ rounds → followed env read list world rounds ≠ .unfinished

variable {env : Environment}

/-- With fixed answers, what is asked for a list is its trail from the first page on. -/
theorem asked_eq_trail (fixed : env.Fixed answers) (read : Json → Option α) (list : String)
    (world : World) (rounds : Nat) :
    asked env read list world rounds =
        (trail answers read list rounds none).map (fun token => Call.get (path list token)) ∧
      (followed env read list world rounds = .unfinished ↔
        (trail answers read list (rounds + 1) none).length = rounds + 1) := by
  obtain ⟨exchanges, added, walking, made⟩ :=
    walk_follows (env.following rounds) read list rounds none [] world
  rw [List.map_id] at added
  have agree : ∀ exchange ∈ exchanges, ∀ target, exchange.call = .get target →
      exchange.answer = answers target := by
    intro exchange member target call
    obtain ⟨earlier, other, rfl⟩ := made exchange member
    cases (show other = .get target from call)
    exact fixed earlier target
  have run : (fetchAll (env.following rounds) read list).made world = exchanges :=
    Work.made_eq added
  rw [asked, run]
  exact walking.trail agree

/-- A list whose pages lead in a circle is followed for ever. -/
theorem followed_of_circles (fixed : env.Fixed answers) (circles : Circles answers read list)
    (world : World) (rounds : Nat) :
    followed env read list world rounds = .unfinished ∧
      (asked env read list world rounds).length = rounds := by
  obtain ⟨token, reached, circle⟩ := circles
  have full := length_trail_of_circle reached circle
  obtain ⟨calls, unfinished⟩ := asked_eq_trail fixed read list world rounds
  rw [unfinished, calls, List.length_map]
  exact ⟨full _, full _⟩

/-- A list of a provider with fixed answers, whose pages name finitely many tokens, is fetched
to its end without asking for a page twice, exactly if its pages do not lead in a circle. A
list whose pages do is followed for ever, and its pages are asked for again and again. -/
theorem endsOnce_iff (fixed : env.Fixed answers) (tokens : List String)
    (named : ∀ token, Names answers read list token → token ∈ tokens) (world : World) :
    (EndsOnce env read list world ↔ ¬ Circles answers read list) ∧
      (Circles answers read list → ∀ rounds,
        followed env read list world rounds = .unfinished ∧
          (asked env read list world rounds).length = rounds ∧
            (tokens.length + 1 < rounds → ¬ (asked env read list world rounds).Nodup)) := by
  have calls := fun rounds => (asked_eq_trail fixed read list world rounds).1
  refine ⟨⟨fun once circles => ?_, fun straight => ?_⟩, fun circles rounds => ?_⟩
  · obtain ⟨enough, ends⟩ := once.ends
    exact ends enough (Nat.le_refl enough) (followed_of_circles fixed circles world enough).1
  · have distinct : ∀ rounds, (trail answers read list rounds none).Nodup :=
      nodup_trail fun other reached circle => straight ⟨other, reached, circle⟩
    have short : ∀ rounds, (trail answers read list rounds none).length ≤ tokens.length + 1 :=
      fun rounds => length_trail_le_of_nodup named (distinct rounds)
    refine ⟨⟨tokens.length + 1, fun rounds => ?_⟩, fun rounds => ?_,
      tokens.length + 1, fun rounds enough unending => ?_⟩
    · rw [calls, List.length_map]
      exact short rounds
    · rw [calls]
      exact List.Nodup.map (fun token other same => path_injective (Call.get.inj same))
        (distinct rounds)
    · have length := (asked_eq_trail fixed read list world rounds).2.mp unending
      have bound := short (rounds + 1)
      omega
  · obtain ⟨unending, full⟩ := followed_of_circles fixed circles world rounds
    refine ⟨unending, full, fun many distinct => ?_⟩
    rw [calls, List.length_map] at full
    rw [calls] at distinct
    have short := length_trail_le_of_nodup named (List.Nodup.of_map _ distinct)
    rw [full] at short
    exact Nat.lt_irrefl _ (Nat.lt_of_lt_of_le many short)

end Fetch

section Table

/-- The answers of a provider whose pages hold nothing but the tokens of a table. -/
def tableAnswers (list : String) (table : List (Option String × String)) (target : String) :
    Answer :=
  match table.find? fun row => path list row.1 == target with
  | some row => .ok (.obj [("nextPageToken", .str row.2)])
  | none => .ok .null

/-- A provider whose pages hold nothing but the tokens of a table. -/
def tableProvider (list : String) (table : List (Option String × String)) : Environment where
  project := ""
  requestId _ := ""
  reply _ call :=
    match call with
    | .get target => { answer := tableAnswers list table target }
    | .getUrl _ => { answer := .ok .null }
    | .post _ _ => { answer := .ok .null }
  pause := Pause.manual
  patience := 0

variable {table : List (Option String × String)}

/-- The answers of a table are a function of the path. -/
theorem tableProvider_fixed (list : String) (table : List (Option String × String)) :
    (tableProvider list table).Fixed (tableAnswers list table) :=
  fun _ _ => rfl

private theorem judge_tableAnswers (token : Option String) :
    judge read list (tableAnswers list table (path list token)) =
      .ok ⟨[], (table.find? fun row => row.1 == token).map Prod.snd⟩ := by
  have rows : (fun row : Option String × String => path list row.1 == path list token) =
      fun row => row.1 == token := by
    funext row
    by_cases same : row.1 = token
    · simp [same]
    · have apart : path list row.1 ≠ path list token := fun equal => same (path_injective equal)
      rw [beq_eq_false_iff_ne.mpr apart, beq_eq_false_iff_ne.mpr same]
  rw [tableAnswers, rows]
  cases table.find? fun row => row.1 == token <;> rfl

/-- The page behind a token leads on as its row says. -/
theorem next?_tableAnswers (token : Option String) :
    next? (tableAnswers list table) read list token =
      continuation token ((table.find? fun row => row.1 == token).map Prod.snd) := by
  rw [next?, judge_tableAnswers]

/-- The tokens that a table names stand in it. -/
theorem names_tableAnswers {token : String}
    (names : Names (tableAnswers list table) read list token) : token ∈ table.map Prod.snd := by
  obtain ⟨used, page, judged, named⟩ := names
  rw [judge_tableAnswers] at judged
  cases judged
  obtain ⟨row, found, rfl⟩ := Option.map_eq_some_iff.mp named
  exact List.mem_map_of_mem (List.mem_of_find?_eq_some found)

/-- Pages that lead upwards only do not lead in a circle. -/
theorem not_circles_of_rises (rank : Option String → Nat)
    (rises : ∀ token other, LeadsTo answers read list token other → rank token < rank other) :
    ¬ Circles answers read list := by
  rintro ⟨token, -, circle⟩
  have higher : ∀ other, Relation.TransGen (LeadsTo answers read list) token other →
      rank token < rank other := by
    intro other path
    induction path with
    | single leads => exact rises _ _ leads
    | tail _ leads inductionHypothesis => exact Nat.lt_trans inductionHypothesis (rises _ _ leads)
  exact Nat.lt_irrefl _ (higher token circle)

/-- Pages of which the last names itself. -/
def knot : List (Option String × String) :=
  [(none, "a"), (some "a", "b"), (some "b", "b")]

/-- Pages that lead to each other. -/
def ring : List (Option String × String) :=
  [(none, "a"), (some "a", "b"), (some "b", "a")]

private theorem not_circles_knot : ¬ Circles (tableAnswers "zones" knot) some "zones" := by
  refine not_circles_of_rises (fun token => if token = none then 0 else
    if token = some "a" then 1 else 2) ?_
  rintro token _ ⟨next, found, rfl⟩
  rw [next?_tableAnswers] at found
  by_cases first : token = none
  · subst first
    cases found
    decide
  by_cases second : token = some "a"
  · subst second
    cases found
    decide
  by_cases third : token = some "b"
  · subst third
    cases found
  · have unnamed : (knot.find? fun row => row.1 == token) = none := by
      simp [knot, Ne.symm first, Ne.symm second, Ne.symm third]
    rw [unnamed] at found
    cases found

private theorem circles_ring : Circles (tableAnswers "zones" ring) some "zones" := by
  have leads : ∀ token next, continuation token ((ring.find? fun row => row.1 == token).map
      Prod.snd) = some next →
        LeadsTo (tableAnswers "zones" ring) some "zones" token (some next) := by
    intro token next found
    exact ⟨next, by rw [next?_tableAnswers, found], rfl⟩
  exact ⟨some "a", .single (leads none "a" rfl),
    .tail (.single (leads (some "a") "b" rfl)) (leads (some "b") "a" rfl)⟩

/-- The pages of a knot are fetched to an end. Those of a ring are followed for ever, and
asked for again. -/
theorem endsOnce_iff_knot :
    EndsOnce (tableProvider "zones" knot) some "zones" {} ∧
      ∀ rounds, 4 < rounds →
        followed (tableProvider "zones" ring) some "zones" {} rounds = .unfinished ∧
          ¬ (asked (tableProvider "zones" ring) some "zones" {} rounds).Nodup := by
  refine ⟨?_, fun rounds many => ?_⟩
  · exact (endsOnce_iff (tableProvider_fixed "zones" knot) ["a", "b", "b"]
      (fun token names => names_tableAnswers names) {}).1.mpr not_circles_knot
  · obtain ⟨unending, -, repeated⟩ := (endsOnce_iff (tableProvider_fixed "zones" ring)
      ["a", "b", "a"] (fun token names => names_tableAnswers names) {}).2 circles_ring rounds
    exact ⟨unending, repeated many⟩

/-- Pages that lead to each other are not fetched to an end. -/
theorem not_endsOnce :
    ¬ ∀ (env : Environment) (answers : String → Answer) (read : Json → Option Json)
      (list : String) (tokens : List String) (world : World), env.Fixed answers →
        (∀ token, Names answers read list token → token ∈ tokens) →
          EndsOnce env read list world := by
  intro always
  have fixed := tableProvider_fixed "zones" ring
  have named : ∀ token, Names (tableAnswers "zones" ring) some "zones" token →
      token ∈ ["a", "b", "a"] := fun token names => names_tableAnswers names
  obtain ⟨enough, ends⟩ := (always _ _ _ _ _ {} fixed named).ends
  exact ends enough (Nat.le_refl enough) (followed_of_circles fixed circles_ring {} enough).1

end Table

end Page

end VmLaunch
