import VmLaunch.Catalog.Basic

/-!
# Courses of work

A `Course` says from outside what a piece of work may do: the exchanges that it
makes, in order and each with a mark, and how it ends. `Work.Follows` relates
work to a course from every state; `Work.Follows.bind` composes courses along
their exchanges, so a long run is understood from the courses of its pieces.
-/

namespace VmLaunch

/-- States that retain the exchanges made so far. -/
class Recording (σ : Type) where
  history : σ → List Exchange

instance : Recording World where
  history := World.history

instance : Recording Session where
  history session := session.world.history

/-- What work may do: the marked exchanges that it makes and its outcome. -/
abbrev Course (ε α : Type) := List ε → Outcome α → Prop

/-- A decided result as an outcome. -/
def Outcome.ofExcept {α : Type} : Except LaunchError α → Outcome α
  | .ok value => .ok value
  | .error cause => .error cause

/-- A result whose outcome is a value is that value. -/
theorem Outcome.ofExcept_eq_ok {α : Type} {result : Except LaunchError α} {value : α}
    (passes : Outcome.ofExcept result = .ok value) : result = .ok value := by
  cases result with
  | ok found => exact congrArg Except.ok (Outcome.ok.inj passes)
  | error cause => cases passes

/-- A result whose outcome is an error is that error. -/
theorem Outcome.ofExcept_eq_error {α : Type} {result : Except LaunchError α} {cause : LaunchError}
    (fails : Outcome.ofExcept result = .error cause) : result = .error cause := by
  cases result with
  | ok found => cases fails
  | error found => exact congrArg Except.error (Outcome.error.inj fails)

/-- A decided result is not unfinished. -/
theorem Outcome.ofExcept_ne_unfinished {α : Type} {result : Except LaunchError α} :
    Outcome.ofExcept result ≠ .unfinished := by
  cases result <;> simp [ofExcept]

/-- The outcome with its value changed. -/
def Outcome.map {α β : Type} (f : α → β) : Outcome α → Outcome β
  | .ok value => .ok (f value)
  | .error cause => .error cause
  | .unfinished => .unfinished

/-- One course after another. The second is entered only with a value of the first. -/
inductive Course.Then {ε α β : Type} (first : Course ε α) (next : α → Course ε β) :
    List ε → Outcome β → Prop where
  | passed {steps rest value outcome} (entry : first steps (.ok value))
      (after : next value rest outcome) : Then first next (steps ++ rest) outcome
  | failed {steps cause} (stop : first steps (.error cause)) :
      Then first next steps (.error cause)
  | unfinished {steps} (stop : first steps .unfinished) : Then first next steps .unfinished

/-- A course that fails does so in its first part or, with a value of it, in its second. -/
theorem Course.Then.blames {ε α β : Type} {blame : LaunchError → Prop} {first : Course ε α}
    {next : α → Course ε β} {steps : List ε} {cause : LaunchError}
    (way : first.Then next steps (.error cause))
    (head : ∀ steps, first steps (.error cause) → blame cause)
    (tail : ∀ value steps, next value steps (.error cause) → blame cause) : blame cause := by
  cases way with
  | passed _ after => exact tail _ _ after
  | failed stop => exact head _ stop

/-- A course ends when both of its parts do. -/
theorem Course.Then.ends {ε α β : Type} {first : Course ε α} {next : α → Course ε β}
    {steps : List ε} (head : ∀ steps, ¬ first steps .unfinished)
    (tail : ∀ value steps, ¬ next value steps .unfinished) :
    ¬ first.Then next steps .unfinished := by
  intro way
  cases way with
  | passed _ after => exact tail _ _ after
  | unfinished stop => exact head _ stop

/-- The course of a value alone. -/
def Course.silent {ε α : Type} (value : α) : Course ε α :=
  fun steps outcome => steps = [] ∧ outcome = .ok value

/-- A provider whose answers take no time. -/
def Environment.Prompt (env : Environment) : Prop :=
  ∀ world call, (env.reply world call).elapsed = 0

/-- The exchange that a call in a world makes. -/
def Environment.exchange (env : Environment) (world : World) (call : Call) : Exchange where
  call := call
  answer := (env.reply world call).answer
  time := world.now

namespace Work

variable {σ ε α β : Type} [Recording σ] {view : ε → Exchange}

omit [Recording σ] in
/-- Behind a value work goes on with what follows it. -/
theorem bind_of_ok {first : Work σ α} {next : α → Work σ β} {state middle : σ} {value : α}
    (run : first state = (.ok value, middle)) : (first >>= next) state = next value middle := by
  change Work.bind first next state = _
  simp only [Work.bind, run]

omit [Recording σ] in
/-- Behind an error nothing is done. -/
theorem bind_of_error {first : Work σ α} {next : α → Work σ β} {state middle : σ}
    {cause : LaunchError} (run : first state = (.error cause, middle)) :
    (first >>= next) state = (.error cause, middle) := by
  change Work.bind first next state = _
  simp only [Work.bind, run]

omit [Recording σ] in
/-- Behind work that does not end nothing is done. -/
theorem bind_of_unfinished {first : Work σ α} {next : α → Work σ β} {state middle : σ}
    (run : first state = (.unfinished, middle)) :
    (first >>= next) state = (.unfinished, middle) := by
  change Work.bind first next state = _
  simp only [Work.bind, run]

omit [Recording σ] in
/-- What comes after work depends on how the work ends alone. -/
theorem bind_congr_at {first other : Work σ α} {next : α → Work σ β} {state later : σ}
    (same : first state = other later) : (first >>= next) state = (other >>= next) later := by
  change Work.bind first next state = Work.bind other next later
  simp only [Work.bind, same]

omit [Recording σ] in
/-- Returning what work ends with adds nothing to it. -/
theorem bind_pure (work : Work σ α) : work >>= Pure.pure = work := by
  funext state
  rcases run : work state with ⟨_ | _ | _, middle⟩
  · exact bind_of_ok run
  · exact bind_of_error run
  · exact bind_of_unfinished run

omit [Recording σ] in
/-- Changing the value of work changes its outcome and nothing else. -/
theorem map_apply (work : Work σ α) (f : α → β) (state : σ) :
    (do
      let value ← work
      return f value : Work σ β) state = ((work state).1.map f, (work state).2) := by
  rcases run : work state with ⟨_ | _ | _, middle⟩
  · exact bind_of_ok run
  · exact bind_of_error run
  · exact bind_of_unfinished run

omit [Recording σ] in
/-- Work in three parts may be taken together from either side. -/
theorem bind_assoc {γ : Type} (first : Work σ α) (next : α → Work σ β) (last : β → Work σ γ) :
    first >>= next >>= last = first >>= fun value => next value >>= last := by
  funext state
  rcases run : first state with ⟨_ | _ | _, middle⟩
  · rw [bind_of_ok run]
    change Work.bind (first >>= next) last state = Work.bind (next _) last middle
    simp only [Work.bind, bind_of_ok run]
  · rw [bind_of_error run, bind_of_error (bind_of_error run)]
  · rw [bind_of_unfinished run, bind_of_unfinished (bind_of_unfinished run)]

/-- Work on the world leaves the catalog of a session as it is. -/
theorem inSession_of_eq {work : Work World α} {session : Session} {outcome : Outcome α}
    {later : World} (run : work session.world = (outcome, later)) :
    work.inSession session = (outcome, { session with world := later }) := by
  simp only [inSession, run]

/-- From every state the work takes one of the ways of a course, and exactly the
exchanges of that way are added to the history. -/
def Follows (view : ε → Exchange) (work : Work σ α) (course : Course ε α) : Prop :=
  ∀ state, ∃ steps,
    Recording.history (work state).2 = Recording.history state ++ steps.map view ∧
      course steps (work state).1

/-- The exchanges that work adds to the history of a state. -/
def made (work : Work σ α) (state : σ) : List Exchange :=
  (Recording.history (work state).2).drop (Recording.history state).length

/-- The exchanges made are those added to the history. -/
theorem made_eq {work : Work σ α} {state : σ} {exchanges : List Exchange}
    (added : Recording.history (work state).2 = Recording.history state ++ exchanges) :
    work.made state = exchanges := by
  rw [made, added, List.drop_left]

/-- Work that follows a course follows every wider one. -/
theorem Follows.mono {work : Work σ α} {narrow wide : Course ε α}
    (follows : work.Follows view narrow)
    (widen : ∀ steps outcome, narrow steps outcome → wide steps outcome) :
    work.Follows view wide := by
  intro state
  obtain ⟨steps, added, way⟩ := follows state
  exact ⟨steps, added, widen _ _ way⟩

/-- Decided work makes no exchange. -/
theorem follows_ofExcept (result : Except LaunchError α) {course : Course ε α}
    (silent : course [] (Outcome.ofExcept result)) :
    (ofExcept result : Work σ α).Follows view course := by
  intro state
  cases result with
  | ok value => exact ⟨[], by simp [ofExcept, pure], silent⟩
  | error cause => exact ⟨[], by simp [ofExcept, fail], silent⟩

/-- A value alone makes no exchange. -/
theorem follows_pure (value : α) {course : Course ε α} (silent : course [] (.ok value)) :
    (Pure.pure value : Work σ α).Follows view course :=
  follows_ofExcept (.ok value) silent

/-- A failure alone makes no exchange. -/
theorem follows_fail (cause : LaunchError) {course : Course ε α}
    (silent : course [] (.error cause)) : (fail cause : Work σ α).Follows view course :=
  follows_ofExcept (.error cause) silent

/-- Unfinished work makes no exchange. -/
theorem follows_unfinished {course : Course ε α} (silent : course [] .unfinished) :
    (unfinished : Work σ α).Follows view course :=
  fun _ => ⟨[], by simp [unfinished], silent⟩

/-- Courses compose like the work that follows them. -/
theorem Follows.bind {first : Work σ α} {next : α → Work σ β} {head : Course ε α}
    {tail : α → Course ε β} (entry : first.Follows view head)
    (after : ∀ value, (next value).Follows view (tail value)) :
    (first >>= next).Follows view (head.Then tail) := by
  intro state
  obtain ⟨steps, added, way⟩ := entry state
  rcases run : first state with ⟨outcome, middle⟩
  rw [run] at added way
  cases outcome with
  | ok value =>
    obtain ⟨rest, more, onward⟩ := after value middle
    rw [bind_of_ok run]
    refine ⟨steps ++ rest, ?_, .passed way onward⟩
    rw [more, added, List.map_append, List.append_assoc]
  | error cause =>
    rw [bind_of_error run]
    exact ⟨steps, added, .failed way⟩
  | unfinished =>
    rw [bind_of_unfinished run]
    exact ⟨steps, added, .unfinished way⟩

/-- Work that goes on whatever was read of the state. -/
theorem Follows.read_bind {f : σ → α} {next : α → Work σ β} {course : Course ε β}
    (after : ∀ value, (next value).Follows view course) :
    (read f >>= next).Follows view course :=
  fun state => after (f state) state

/-- Work that goes on after a change that adds no exchange. -/
theorem Follows.silent_bind {first : Work σ α} {next : α → Work σ β} {course : Course ε β}
    (quiet : ∀ state, ∃ value middle, first state = (.ok value, middle) ∧
      Recording.history middle = Recording.history state)
    (after : ∀ value, (next value).Follows view course) :
    (first >>= next).Follows view course := by
  intro state
  obtain ⟨value, middle, run, same⟩ := quiet state
  obtain ⟨steps, added, way⟩ := after value middle
  rw [bind_of_ok run]
  exact ⟨steps, by rw [added, same], way⟩

/-- Work on the world follows the same course as work on a session. -/
theorem Follows.inSession {work : Work World α} {course : Course ε α}
    (follows : work.Follows view course) : work.inSession.Follows view course :=
  fun session => follows session.world

/-- Ask the provider once and judge the answer. -/
def ask (env : Environment) (call : Call) (judge : Answer → Except LaunchError α) :
    Work World α := do
  let answer ← env.call call
  ofExcept (judge answer)

/-- To ask once comes to the judgement of the answer, in the world after the call. -/
theorem ask_apply (env : Environment) (call : Call) (judge : Answer → Except LaunchError α)
    (world : World) :
    ask env call judge world =
      (Outcome.ofExcept (judge (env.reply world call).answer),
        world.afterCall call (env.reply world call)) := by
  change (ofExcept (judge (env.reply world call).answer) : Work World α) _ = _
  cases judge (env.reply world call).answer <;> rfl

/-- Work that asks first either ends with the judgement or goes on with its value. -/
theorem Follows.ask_bind {env : Environment} {call : Call}
    {judge : Answer → Except LaunchError α} {next : α → Work World β} {course : Course ε β}
    (mark : World → ε) (marked : ∀ world, view (mark world) = env.exchange world call)
    (refused : ∀ world cause, judge (env.reply world call).answer = .error cause →
      course [mark world] (.error cause))
    (after : ∀ world value, judge (env.reply world call).answer = .ok value →
      (next value).Follows view fun rest outcome => course (mark world :: rest) outcome) :
    (ask env call judge >>= next).Follows view course := by
  intro world
  have run := ask_apply env call judge world
  have added : Recording.history (world.afterCall call (env.reply world call)) =
      Recording.history world ++ [view (mark world)] := by
    rw [marked]
    rfl
  cases judged : judge (env.reply world call).answer with
  | error cause =>
    rw [judged] at run
    rw [bind_of_error run]
    exact ⟨[mark world], added, refused world cause judged⟩
  | ok value =>
    rw [judged] at run
    rw [bind_of_ok run]
    obtain ⟨rest, more, way⟩ :=
      after world value judged (world.afterCall call (env.reply world call))
    refine ⟨mark world :: rest, ?_, way⟩
    rw [more, added, List.append_assoc]
    rfl

end Work

end VmLaunch
