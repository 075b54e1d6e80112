import VmLaunch.Proofs.Provider.Body
import VmLaunch.Proofs.Provider.Circle

/-!
# Chains of pages

The pages of a list form a `Chain` when each names the token of the next, up to one that names
none. A list that is answered with a chain is the items of its pages in order, and each page is
asked for once. A page that fails ends the fetch, and the items of the pages before it are lost.
-/

namespace VmLaunch.Page

variable {α : Type}

/-- The world after pages were asked for in turn. -/
def afterPages (env : Environment) (list : String) (world : World)
    (tokens : List (Option String)) : World :=
  tokens.foldl (fun world token =>
    world.afterCall (.get (path list token)) (env.reply world (.get (path list token)))) world

/-- The answer to a page that is asked for after others. -/
def answerAfter (env : Environment) (list : String) (world : World)
    (before : List (Option String)) (token : Option String) : Answer :=
  (env.reply (afterPages env list world before) (.get (path list token))).answer

/-- Pages in the order in which they lead to each other: the items of the first, and of every
later one its token and its items. No token is empty, and none leads to two pages. -/
structure Chain (α : Type) where
  first : List α
  later : List (String × List α)
  named : ∀ page ∈ later, page.1 ≠ ""
  distinct : (later.map Prod.fst).Nodup

namespace Chain

/-- The pages of a chain, each with the token that it is asked for with. -/
def pages (chain : Chain α) : List (Option String × List α) :=
  (none, chain.first) :: chain.later.map fun page => (some page.1, page.2)

/-- The tokens that the pages are asked for with. -/
def tokens (chain : Chain α) : List (Option String) :=
  chain.pages.map Prod.fst

/-- The items of all pages in order. -/
def items (chain : Chain α) : List α :=
  chain.pages.flatMap Prod.snd

/-- The calls for the pages in order. -/
def calls (chain : Chain α) (list : String) : List Call :=
  chain.tokens.map fun token => .get (path list token)

end Chain

/-- The token that a page names: that of the page behind it, and none or an empty one when it is
the last. -/
def Foretells (next : Option String) : Option (Option String × List α) → Prop
  | some behind => next = behind.1
  | none => next = none ∨ next = some ""

/-- What comes of an answer that is no page. -/
inductive Fails (read : Json → Option α) (list : String) : Answer → LaunchError → Prop where
  | refused {fault} : Fails read list (.error fault) (.provider (.list list) fault)
  | unreadable {body} (shapeless : ∀ page, ¬ Shows read body page) :
      Fails read list (.ok body) (.malformed (.page list))

namespace Chain

variable (env : Environment) (read : Json → Option α) (list : String) (world : World)

/-- The page at a place of the chain is answered as it is after those before it. -/
def Answered (chain : Chain α) (place : Nat) : Prop :=
  ∃ page body next, chain.pages[place]? = some page ∧
    answerAfter env list world (chain.tokens.take place) page.1 = .ok body ∧
      Shows read body ⟨page.2, next⟩ ∧ Foretells next chain.pages[place + 1]?

/-- The page at a place of the chain fails after those before it. -/
def Broken (chain : Chain α) (place : Nat) (cause : LaunchError) : Prop :=
  ∃ page, chain.pages[place]? = some page ∧
    Fails read list (answerAfter env list world (chain.tokens.take place) page.1) cause

end Chain

variable {env : Environment} {read : Json → Option α} {list : String} {world : World}

/-- A body that shows a page is judged to be it. -/
theorem judge_of_shows {body : Json} {page : Page α} (shows : Shows read body page) :
    judge read list (.ok body) = .ok page := by
  simp only [judge, decode_eq_some_iff.mpr shows]

/-- An answer that fails is judged to be the error. -/
theorem judge_of_fails {answer : Answer} {cause : LaunchError}
    (fails : Fails read list answer cause) : judge read list answer = .error cause := by
  cases fails with
  | refused => rfl
  | @unreadable body shapeless =>
    have shut : decode read body = none :=
      Option.eq_none_iff_forall_ne_some.mpr fun page decoded =>
        shapeless page (decode_eq_some_iff.mp decoded)
    simp only [judge, shut]

/-- A page that is there adds its items, and leads on or ends the walk. -/
theorem walk_of_page {rounds : Nat} {token : Option String} {items : List α} {page : Page α}
    (judged : judge read list (env.reply world (.get (path list token))).answer = .ok page) :
    walk env read list (rounds + 1) token items world =
      match continuation token page.next with
      | some next =>
        walk env read list rounds (some next) (items ++ page.items)
          (afterPages env list world [token])
      | none => (.ok (items ++ page.items), afterPages env list world [token]) := by
  have run := Work.ask_apply env (.get (path list token)) (judge read list) world
  rw [judged] at run
  rw [walk_succ, Work.bind_of_ok run]
  cases continuation token page.next <;> rfl

/-- A page that fails ends the walk. -/
theorem walk_of_failure {rounds : Nat} {token : Option String} {items : List α}
    {cause : LaunchError}
    (judged : judge read list (env.reply world (.get (path list token))).answer = .error cause) :
    walk env read list (rounds + 1) token items world =
      (.error cause, afterPages env list world [token]) := by
  have run := Work.ask_apply env (.get (path list token)) (judge read list) world
  rw [judged] at run
  rw [walk_succ, Work.bind_of_error run]
  rfl

/-- The world after pages in two parts is that after the second, from the first on. -/
theorem afterPages_append (before rest : List (Option String)) :
    afterPages env list world (before ++ rest) =
      afterPages env list (afterPages env list world before) rest :=
  List.foldl_append

/-- Pages that are asked for are added to the calls. -/
theorem history_afterPages (env : Environment) (list : String) (world : World)
    (tokens : List (Option String)) :
    ∃ made, (afterPages env list world tokens).history = world.history ++ made ∧
      made.map Exchange.call = tokens.map fun token => .get (path list token) := by
  induction tokens generalizing world with
  | nil => exact ⟨[], (List.append_nil _).symm, rfl⟩
  | cons token rest inductionHypothesis =>
    obtain ⟨made, added, calls⟩ := inductionHypothesis (afterPages env list world [token])
    refine ⟨env.exchange world (.get (path list token)) :: made, ?_, ?_⟩
    · change (afterPages env list (afterPages env list world [token]) rest).history = _
      rw [added]
      exact List.append_assoc _ [_] _
    · rw [List.map_cons, List.map_cons, calls]
      rfl

namespace Chain

variable {chain : Chain α} {place : Nat}

/-- The tokens of a chain are distinct. -/
theorem nodup_tokens (chain : Chain α) : chain.tokens.Nodup := by
  have later : chain.tokens = none :: (chain.later.map Prod.fst).map some := by
    simp [tokens, pages]
  rw [later]
  refine List.nodup_cons.mpr ⟨by simp, ?_⟩
  exact chain.distinct.map fun _ _ => Option.some.inj

/-- The calls for a chain are distinct. -/
theorem nodup_calls (chain : Chain α) (list : String) : (chain.calls list).Nodup :=
  chain.nodup_tokens.map fun _ _ same => path_injective (Call.get.inj same)

/-- A page behind another is asked for with a token. -/
theorem exists_token_of_behind {behind : Option String × List α}
    (there : chain.pages[place + 1]? = some behind) :
    ∃ token, behind.1 = some token ∧ token ≠ "" := by
  rw [pages, List.getElem?_cons_succ, List.getElem?_map] at there
  obtain ⟨page, found, rfl⟩ := Option.map_eq_some_iff.mp there
  exact ⟨page.1, rfl, chain.named page (List.mem_of_getElem? found)⟩

/-- A page leads a walk on to the page behind it, and the last page ends it. -/
theorem continuation_of_foretells {page : Option String × List α} {next : Option String}
    (there : chain.pages[place]? = some page)
    (foretells : Foretells next chain.pages[place + 1]?) :
    continuation page.1 next = (chain.pages[place + 1]?).bind Prod.fst := by
  cases behind : chain.pages[place + 1]? with
  | none =>
    rw [behind] at foretells
    rcases foretells with rfl | rfl <;> rfl
  | some follower =>
    rw [behind] at foretells
    obtain rfl : next = follower.1 := foretells
    obtain ⟨token, named, filled⟩ := exists_token_of_behind behind
    have apart : page.1 ≠ some token := by
      intro same
      have first : chain.tokens[place]? = some (some token) := by
        rw [tokens, List.getElem?_map, there, Option.map_some, same]
      have second : chain.tokens[place + 1]? = some (some token) := by
        rw [tokens, List.getElem?_map, behind, Option.map_some, named]
      have bound := (List.getElem?_eq_some_iff.mp first).1
      have equal := (List.getElem?_inj bound chain.nodup_tokens).mp (first.trans second.symm)
      omega
    simp [named, continuation, filled, apart]

/-- The tokens of one more page end with its own. -/
theorem take_tokens_succ {page : Option String × List α}
    (there : chain.pages[place]? = some page) :
    chain.tokens.take (place + 1) = chain.tokens.take place ++ [page.1] := by
  rw [List.take_add_one, tokens, List.getElem?_map, there]
  rfl

/-- The items of one more page end with its own. -/
theorem items_take_succ {page : Option String × List α}
    (there : chain.pages[place]? = some page) :
    (chain.pages.take (place + 1)).flatMap Prod.snd =
      (chain.pages.take place).flatMap Prod.snd ++ page.2 := by
  rw [List.take_add_one, there, List.flatMap_append]
  simp

/-- After pages that are answered a walk has their items and goes on with the page behind them. -/
theorem fetchAll_eq_walk {page : Option String × List α}
    (there : chain.pages[place]? = some page)
    (answered : ∀ earlier < place, chain.Answered env read list world earlier)
    (patient : place ≤ env.patience) :
    fetchAll env read list world =
      walk env read list (env.patience - place) page.1
        ((chain.pages.take place).flatMap Prod.snd)
        (afterPages env list world (chain.tokens.take place)) := by
  induction place generalizing page with
  | zero =>
    cases there
    rfl
  | succ place inductionHypothesis =>
    obtain ⟨before, body, next, found, answer, shows, foretells⟩ := answered place (by omega)
    have judged := (congrArg (judge read list) answer).trans (judge_of_shows shows)
    have onward := continuation_of_foretells found foretells
    obtain ⟨token, named, -⟩ := exists_token_of_behind there
    rw [there, Option.bind_some, named] at onward
    have round : env.patience - place = env.patience - (place + 1) + 1 := by omega
    rw [inductionHypothesis found (fun earlier within => answered earlier (by omega)) (by omega),
      round, walk_of_page judged, onward, take_tokens_succ found, items_take_succ found, named,
      afterPages_append]

/-- A chain that is answered is fetched as its items. -/
theorem fetchAll_of_answered
    (answered : ∀ place < chain.pages.length, chain.Answered env read list world place)
    (patient : chain.pages.length ≤ env.patience) :
    fetchAll env read list world = (.ok chain.items, afterPages env list world chain.tokens) := by
  have length : chain.pages.length = chain.later.length + 1 := by simp [pages]
  obtain ⟨last, body, next, there, answer, shows, foretells⟩ :=
    answered chain.later.length (by omega)
  have judged := (congrArg (judge read list) answer).trans (judge_of_shows shows)
  have ends : continuation last.1 next = none := by
    rw [continuation_of_foretells there foretells, List.getElem?_eq_none (by omega),
      Option.bind_none]
  have round : env.patience - chain.later.length = env.patience - chain.pages.length + 1 := by
    omega
  have all : chain.tokens.take (chain.later.length + 1) = chain.tokens :=
    List.take_of_length_le (by simp [tokens, length])
  rw [fetchAll_eq_walk there (fun earlier within => answered earlier (by omega)) (by omega), round,
    walk_of_page judged, ends, ← afterPages_append, ← take_tokens_succ there, all]
  simp only [← items_take_succ there, ← length, List.take_length]
  rfl

/-- A chain that breaks is not fetched beyond the page that fails. -/
theorem fetchAll_of_broken {cause : LaunchError}
    (answered : ∀ earlier < place, chain.Answered env read list world earlier)
    (broken : chain.Broken env read list world place cause) (patient : place < env.patience) :
    fetchAll env read list world =
      (.error cause, afterPages env list world (chain.tokens.take (place + 1))) := by
  obtain ⟨page, there, fails⟩ := broken
  have round : env.patience - place = env.patience - (place + 1) + 1 := by omega
  rw [fetchAll_eq_walk there answered (by omega), round, walk_of_failure (judge_of_fails fails),
    ← afterPages_append, ← take_tokens_succ there]

/-- What a fetch ends with and has asked for, when it ends in the world after some pages. -/
theorem asked_of_run {tokens : List (Option String)} {outcome : Outcome (List α)} {rounds : Nat}
    (run : fetchAll (env.following rounds) read list world =
      (outcome, afterPages env list world tokens)) :
    followed env read list world rounds = outcome ∧
      asked env read list world rounds = tokens.map fun token => .get (path list token) := by
  obtain ⟨made, added, calls⟩ := history_afterPages env list world tokens
  have all : (fetchAll (env.following rounds) read list).made world = made := by
    refine Work.made_eq ?_
    rw [run]
    exact added
  exact ⟨congrArg Prod.fst run, by rw [asked, all, calls]⟩

end Chain

/-- A chain of pages is fetched as the items of all its pages in order, and each page is asked for
once, in order. When a page of it fails instead, so does the fetch, and no later page is asked
for. -/
theorem fetches_chain (env : Environment) (read : Json → Option α) (list : String) (world : World)
    (chain : Chain α) :
    (chain.calls list).Nodup ∧
      ((∀ place < chain.pages.length, chain.Answered env read list world place) →
        ∀ rounds, chain.pages.length ≤ rounds →
          followed env read list world rounds = .ok chain.items ∧
            asked env read list world rounds = chain.calls list) ∧
      ∀ place cause, (∀ earlier < place, chain.Answered env read list world earlier) →
        chain.Broken env read list world place cause →
          ∀ rounds, place < rounds →
            followed env read list world rounds = .error cause ∧
              asked env read list world rounds = (chain.calls list).take (place + 1) := by
  refine ⟨chain.nodup_calls list, fun answered rounds patient => ?_,
    fun place cause answered broken rounds patient => ?_⟩
  · exact Chain.asked_of_run (Chain.fetchAll_of_answered answered patient)
  · rw [Chain.calls, ← List.map_take]
    exact Chain.asked_of_run (Chain.fetchAll_of_broken answered broken patient)

/-- A provider with the answers of a table; what the table lacks has no body. -/
def answering (table : List (String × Answer)) : Environment where
  project := ""
  requestId _ := ""
  reply _ call :=
    match call with
    | .get target => { answer := (table.lookup target).getD (.ok .null) }
    | .getUrl _ => { answer := .ok .null }
    | .post _ _ => { answer := .ok .null }
  pause := Pause.manual
  patience := 0

/-- Three pages, of which the second is empty. -/
def threePages : Chain String where
  first := ["x"]
  later := [("a&b", []), ("c", ["y", "z"])]
  named := by decide
  distinct := by decide

/-- A provider of the three pages with an answer to the last. -/
def threeAnswers (last : Answer) : Environment :=
  answering
    [("zones", .ok (.obj [("items", .arr [.str "x"]), ("nextPageToken", .str "a&b")])),
      ("zones?pageToken=a%26b", .ok (.obj [("nextPageToken", .str "c")])),
      ("zones?pageToken=c", last)]

/-- The last page names an empty token. -/
def lastAnswer : Answer :=
  .ok (.obj [("items", .arr [.str "y", .str "z"]), ("nextPageToken", .str "")])

/-- A page whose items are no list. -/
def shapelessAnswer : Answer :=
  .ok (.obj [("items", .null)])

/-- The second page of the zones is asked for with its token spelled out. -/
theorem path_second : path "zones" (some "a&b") = "zones?pageToken=a%26b" := by
  decide +kernel

/-- The third page of the zones is asked for with its token. -/
theorem path_third : path "zones" (some "c") = "zones?pageToken=c" := by
  decide +kernel

private theorem first_answered (last : Answer) :
    threePages.Answered (threeAnswers last) Json.text? "zones" {} 0 :=
  ⟨(none, ["x"]), _, some "a&b", rfl, rfl, .parts (.object (by decide)) (.listed rfl) .token, rfl⟩

private theorem second_answered (last : Answer) :
    threePages.Answered (threeAnswers last) Json.text? "zones" {} 1 := by
  refine ⟨(some "a&b", []), .obj [("nextPageToken", .str "c")], some "c", rfl, ?_,
    .parts (.object (by decide)) .missing .token, rfl⟩
  simp only [answerAfter, threeAnswers, answering, path_second]
  rfl

private theorem third_answered :
    threePages.Answered (threeAnswers lastAnswer) Json.text? "zones" {} 2 := by
  refine ⟨(some "c", ["y", "z"]),
    .obj [("items", .arr [.str "y", .str "z"]), ("nextPageToken", .str "")], some "", rfl, ?_,
    .parts (.object (by decide)) (.listed rfl) .token, .inr rfl⟩
  simp only [answerAfter, threeAnswers, answering, path_third]
  rfl

private theorem third_broken :
    threePages.Broken (threeAnswers shapelessAnswer) Json.text? "zones" {} 2
      (.malformed (.page "zones")) := by
  refine ⟨(some "c", ["y", "z"]), rfl, ?_⟩
  simp only [answerAfter, threeAnswers, answering, path_third]
  refine .unreadable fun page shows => ?_
  cases decode_eq_some_iff.mpr shows

/-- The three pages are fetched as their items, and none of these when the last one is no page. -/
theorem fetches_chain_threePages :
    followed (threeAnswers lastAnswer) Json.text? "zones" {} 3 = .ok ["x", "y", "z"] ∧
      asked (threeAnswers lastAnswer) Json.text? "zones" {} 3 = threePages.calls "zones" ∧
      followed (threeAnswers shapelessAnswer) Json.text? "zones" {} 3 =
        .error (.malformed (.page "zones")) := by
  obtain ⟨-, whole, -⟩ := fetches_chain (threeAnswers lastAnswer) Json.text? "zones" {} threePages
  obtain ⟨-, -, broken⟩ :=
    fetches_chain (threeAnswers shapelessAnswer) Json.text? "zones" {} threePages
  have answered : ∀ place < threePages.pages.length,
      threePages.Answered (threeAnswers lastAnswer) Json.text? "zones" {} place := by
    intro place within
    match place, within with
    | 0, _ => exact first_answered _
    | 1, _ => exact second_answered _
    | 2, _ => exact third_answered
  have before : ∀ place < 2,
      threePages.Answered (threeAnswers shapelessAnswer) Json.text? "zones" {} place := by
    intro place within
    match place, within with
    | 0, _ => exact first_answered _
    | 1, _ => exact second_answered _
  obtain ⟨items, calls⟩ := whole answered 3 (by decide)
  exact ⟨items, calls, (broken 2 _ before third_broken 3 (by decide)).1⟩

end VmLaunch.Page
