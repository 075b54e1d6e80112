import VmLaunch.Proofs.Course
import VmLaunch.Provider.Pages

/-!
# Walks through pages

`Walking` retains what a walk has asked for, page after page, and what it has made of the
answers. It is a relation between exchanges and an outcome alone: the items of a walk are
determined by the answers that its exchanges record. With a prompt provider a walk is
`Instant`: all of its exchanges are made at one time.
-/

namespace VmLaunch

/-- An exchange that a provider has made in some world. -/
def Environment.Made (env : Environment) (exchange : Exchange) : Prop :=
  ∃ world call, exchange = env.exchange world call

namespace Work

variable {α β : Type}

/-- Work that takes no time: its exchanges are made at the time at which it begins. -/
def Instant (work : Work World α) : Prop :=
  ∀ world, (work world).2.now = world.now ∧
    ∃ made, (work world).2.history = world.history ++ made ∧
      ∀ exchange ∈ made, exchange.time = world.now

/-- A value that is given takes no time. -/
theorem instant_pure (value : α) : (Pure.pure value : Work World α).Instant :=
  fun _ => ⟨rfl, [], (List.append_nil _).symm, by simp⟩

/-- Work that does not end by itself takes no time. -/
theorem instant_unfinished : (unfinished : Work World α).Instant :=
  fun _ => ⟨rfl, [], (List.append_nil _).symm, by simp⟩

/-- Asking a prompt provider takes no time. -/
theorem instant_ask {env : Environment} (prompt : env.Prompt) (call : Call)
    (judge : Answer → Except LaunchError α) : (ask env call judge).Instant := by
  intro world
  rw [ask_apply]
  refine ⟨?_, [env.exchange world call], rfl, List.forall_mem_singleton.mpr rfl⟩
  simp [World.afterCall, prompt world call]

/-- Work takes no time when none of its parts does. -/
theorem Instant.bind {first : Work World α} {next : α → Work World β} (entry : first.Instant)
    (after : ∀ value, (next value).Instant) : (first >>= next).Instant := by
  intro world
  obtain ⟨still, made, added, timed⟩ := entry world
  rcases run : first world with ⟨outcome, middle⟩
  rw [run] at still added
  cases outcome with
  | ok value =>
    obtain ⟨stillAfter, rest, more, timedAfter⟩ := after value middle
    rw [bind_of_ok run]
    refine ⟨stillAfter.trans still, made ++ rest, ?_, List.forall_mem_append.mpr ⟨timed, ?_⟩⟩
    · rw [more, added, List.append_assoc]
    · intro exchange member
      exact (timedAfter exchange member).trans still
  | error cause =>
    rw [bind_of_error run]
    exact ⟨still, made, added, timed⟩
  | unfinished =>
    rw [bind_of_unfinished run]
    exact ⟨still, made, added, timed⟩

end Work

namespace Page

variable {α : Type}

/-- What is made of the answer to a page. -/
def judge (read : Json → Option α) (list : String) : Answer → Except LaunchError (Page α)
  | .error fault => .error (.provider (.list list) fault)
  | .ok body =>
    match decode read body with
    | none => .error (.malformed (.page list))
    | some page => .ok page

/-- A walk of so many rounds from a token on, with the items of the pages before it. -/
inductive Walking (read : Json → Option α) (list : String) :
    Nat → Option String → List α → List Exchange → Outcome (List α) → Prop where
  | unfinished {token items} : Walking read list 0 token items [] .unfinished
  | refused {rounds token items exchange cause}
      (asked : exchange.call = .get (path list token))
      (judged : judge read list exchange.answer = .error cause) :
      Walking read list (rounds + 1) token items [exchange] (.error cause)
  | last {rounds token items exchange page}
      (asked : exchange.call = .get (path list token))
      (judged : judge read list exchange.answer = .ok page)
      (ends : continuation token page.next = none) :
      Walking read list (rounds + 1) token items [exchange] (.ok (items ++ page.items))
  | more {rounds token items exchange page next exchanges outcome}
      (asked : exchange.call = .get (path list token))
      (judged : judge read list exchange.answer = .ok page)
      (leads : continuation token page.next = some next)
      (after : Walking read list rounds (some next) (items ++ page.items) exchanges outcome) :
      Walking read list (rounds + 1) token items (exchange :: exchanges) outcome

variable {env : Environment} {read : Json → Option α} {list : String}

/-- A round asks for a page and goes on as the page says. -/
theorem walk_succ (env : Environment) (read : Json → Option α) (list : String) (rounds : Nat)
    (token : Option String) (items : List α) :
    walk env read list (rounds + 1) token items = (do
      let page ← Work.ask env (.get (path list token)) (judge read list)
      match continuation token page.next with
      | some next => walk env read list rounds (some next) (items ++ page.items)
      | none => return items ++ page.items) := by
  funext world
  simp only [walk, Environment.callOr, Work.ask, Environment.call, bind, Work.bind]
  cases (env.reply world (.get (path list token))).answer with
  | error fault => rfl
  | ok body =>
    simp only [Pure.pure, Work.pure, judge]
    cases decode read body <;> rfl

/-- A walk asks for its pages in turn, and for nothing else. -/
theorem walk_follows (env : Environment) (read : Json → Option α) (list : String) (rounds : Nat)
    (token : Option String) (items : List α) :
    (walk env read list rounds token items).Follows id fun exchanges outcome =>
      Walking read list rounds token items exchanges outcome ∧
        ∀ exchange ∈ exchanges, env.Made exchange := by
  induction rounds generalizing token items with
  | zero => exact Work.follows_unfinished ⟨.unfinished, by simp⟩
  | succ rounds inductionHypothesis =>
    rw [walk_succ]
    refine Work.Follows.ask_bind (fun world => env.exchange world (.get (path list token)))
      (fun _ => rfl) (fun world cause judged => ?_) fun world page judged => ?_
    · exact ⟨.refused rfl judged, List.forall_mem_singleton.mpr ⟨world, _, rfl⟩⟩
    · cases leads : continuation token page.next with
      | none =>
        exact Work.follows_pure _
          ⟨.last rfl judged leads, List.forall_mem_singleton.mpr ⟨world, _, rfl⟩⟩
      | some next =>
        refine (inductionHypothesis (some next) (items ++ page.items)).mono ?_
        rintro exchanges outcome ⟨walking, made⟩
        exact ⟨.more rfl judged leads walking, List.forall_mem_cons.mpr ⟨⟨world, _, rfl⟩, made⟩⟩

/-- A walk takes no time, when the provider answers at once. -/
theorem instant_walk (prompt : env.Prompt) (read : Json → Option α) (list : String) (rounds : Nat)
    (token : Option String) (items : List α) : (walk env read list rounds token items).Instant := by
  induction rounds generalizing token items with
  | zero => exact Work.instant_unfinished
  | succ rounds inductionHypothesis =>
    rw [walk_succ]
    refine (Work.instant_ask prompt _ _).bind fun page => ?_
    cases continuation token page.next with
    | none => exact Work.instant_pure _
    | some next => exact inductionHypothesis (some next) _

/-- Items are the outcome of at least one exchange. -/
theorem Walking.exchanges_ne_nil {rounds : Nat} {token : Option String} {items all : List α}
    {exchanges : List Exchange}
    (walking : Walking read list rounds token items exchanges (.ok all)) : exchanges ≠ [] := by
  cases walking <;> exact List.cons_ne_nil _ _

/-- A walk that ends with items has asked for its first page. -/
theorem Walking.exists_asked {rounds : Nat} {token : Option String} {items all : List α}
    {exchanges : List Exchange}
    (walking : Walking read list rounds token items exchanges (.ok all)) :
    ∃ exchange ∈ exchanges, exchange.call = .get (path list token) := by
  cases walking with
  | last asked => exact ⟨_, List.mem_cons_self, asked⟩
  | more asked => exact ⟨_, List.mem_cons_self, asked⟩

end Page

end VmLaunch
