import VmLaunch.Proofs.Inquiry
import VmLaunch.Proofs.Provider.Walk

/-!
# Routines

A `Routine` is work on the world that is done action by action: it asks the provider, sleeps or
looks at the world, and goes on with what it learns. Between two of its actions others may act.
`Routine.run` does all of it at once; the routines of the library's work are those whose run is
that work.
-/

namespace VmLaunch

/-- What is left to do of a piece of work. -/
inductive Routine (α : Type) where
  | ended (outcome : Outcome α)
  | asks (call : Call) (next : Answer → Routine α)
  | sleeps (d : Duration) (next : Routine α)
  | looks (next : World → Routine α)

namespace Routine

variable {α β : Type}

/-- One routine after another; an error or an unfinished routine is the last. -/
def bind : Routine α → (α → Routine β) → Routine β
  | ended (.ok value), after => after value
  | ended (.error cause), _ => ended (.error cause)
  | ended .unfinished, _ => ended .unfinished
  | asks call next, after => asks call fun answer => (next answer).bind after
  | sleeps d next, after => sleeps d (next.bind after)
  | looks next, after => looks fun world => (next world).bind after

instance : Monad Routine where
  pure value := ended (.ok value)
  bind := bind

/-- A routine that is already decided. -/
def ofExcept (result : Except LaunchError α) : Routine α :=
  ended (Outcome.ofExcept result)

/-- Ask the provider once and judge the answer. -/
def ask (call : Call) (judge : Answer → Except LaunchError α) : Routine α :=
  asks call fun answer => ofExcept (judge answer)

/-- Look at the world. -/
def look (f : World → α) : Routine α :=
  looks fun world => ended (.ok (f world))

/-- Sleep once. -/
def sleep (d : Duration) : Routine Unit :=
  sleeps d (ended (.ok ()))

/-- Do the next action. -/
def step (env : Environment) (routine : Routine α) (world : World) : Routine α × World :=
  match routine with
  | ended outcome => (ended outcome, world)
  | asks call next =>
    (next (env.reply world call).answer, world.afterCall call (env.reply world call))
  | sleeps d next => (next, world.afterPause (env.pause world d))
  | looks next => (next world, world)

/-- Do all that is left. -/
def run (env : Environment) : Routine α → Work World α
  | ended outcome => fun world => (outcome, world)
  | asks call next => fun world =>
    (next (env.reply world call).answer).run env (world.afterCall call (env.reply world call))
  | sleeps d next => fun world => next.run env (world.afterPause (env.pause world d))
  | looks next => fun world => (next world).run env world

variable {env : Environment}

@[simp]
theorem run_pure (value : α) : (Pure.pure value : Routine α).run env = Pure.pure value :=
  rfl

/-- Routines that follow each other run one after the other. -/
@[simp]
theorem run_bind (first : Routine α) (next : α → Routine β) :
    (first >>= next).run env = first.run env >>= fun value => (next value).run env := by
  funext world
  induction first generalizing world with
  | ended outcome => cases outcome <;> rfl
  | asks call next inductionHypothesis => exact inductionHypothesis _ _
  | sleeps d next inductionHypothesis => exact inductionHypothesis _
  | looks next inductionHypothesis => exact inductionHypothesis _ _

/-- A routine that is decided runs to its result. -/
@[simp]
theorem run_ofExcept (result : Except LaunchError α) :
    (ofExcept result).run env = Work.ofExcept result := by
  cases result <;> rfl

/-- A routine that asks runs to the judgement of the answer. -/
@[simp]
theorem run_ask (call : Call) (judge : Answer → Except LaunchError α) :
    (ask call judge).run env = Work.ask env call judge := by
  funext world
  rw [Work.ask_apply]
  rfl

@[simp]
theorem run_look (f : World → α) : (look f).run env = Work.read f :=
  rfl

@[simp]
theorem run_sleep (d : Duration) : (sleep d).run env = env.sleep d :=
  rfl

/-- What is left of a routine after the exchanges that its actions have made. -/
inductive Leads : Routine α → List Exchange → Routine α → Prop where
  | here {routine} : Leads routine [] routine
  | asked {call next exchange exchanges rest} (called : exchange.call = call)
      (after : Leads (next exchange.answer) exchanges rest) :
      Leads (asks call next) (exchange :: exchanges) rest
  | slept {d next exchanges rest} (after : Leads next exchanges rest) :
      Leads (sleeps d next) exchanges rest
  | looked {next world exchanges rest} (after : Leads (next world) exchanges rest) :
      Leads (looks next) exchanges rest

/-- A routine is led on by the exchanges of its parts. -/
theorem Leads.trans {routine middle rest : Routine α} {exchanges more : List Exchange}
    (first : Leads routine exchanges middle) (second : Leads middle more rest) :
    Leads routine (exchanges ++ more) rest := by
  induction first with
  | here => exact second
  | asked called _ inductionHypothesis => exact .asked called (inductionHypothesis second)
  | slept _ inductionHypothesis => exact .slept (inductionHypothesis second)
  | looked _ inductionHypothesis => exact .looked (inductionHypothesis second)

/-- An action leads on with the exchanges that it adds to the history. -/
theorem exists_leads_step (env : Environment) (routine : Routine α) (world : World) :
    ∃ made, (routine.step env world).2.history = world.history ++ made ∧
      Leads routine made (routine.step env world).1 := by
  cases routine with
  | ended outcome => exact ⟨[], (List.append_nil _).symm, .here⟩
  | asks call next => exact ⟨[env.exchange world call], rfl, .asked rfl .here⟩
  | sleeps d next => exact ⟨[], (List.append_nil _).symm, .slept .here⟩
  | looks next => exact ⟨[], (List.append_nil _).symm, .looked .here⟩

/-- Exchanges that lead to the end of an asking routine answer it first. -/
theorem Leads.of_ask_bind {call : Call} {judge : Answer → Except LaunchError α}
    {next : α → Routine β} {exchanges : List Exchange} {outcome : Outcome β}
    (leads : Leads (ask call judge >>= next) exchanges (ended outcome)) :
    ∃ exchange rest, exchanges = exchange :: rest ∧ exchange.call = call ∧
      Leads (ofExcept (judge exchange.answer) >>= next) rest (ended outcome) := by
  cases leads with
  | asked called after => exact ⟨_, _, rfl, called, after⟩

end Routine

/-- The routine of an inquiry. -/
def Inquiry.routine {α : Type} : Inquiry α → Routine α
  | .decided result => .ofExcept result
  | .asking call judge => .ask call judge

/-- The routine of an inquiry runs as the inquiry is made. -/
@[simp]
theorem Inquiry.run_routine {α : Type} (inquiry : Inquiry α) (env : Environment) :
    inquiry.routine.run env = inquiry.perform env := by
  cases inquiry with
  | decided result => exact Routine.run_ofExcept result
  | asking call judge => exact Routine.run_ask call judge

namespace Page

variable {α : Type}

/-- The routine of a walk, which asks for one page at a time. -/
def walkRoutine (read : Json → Option α) (list : String) :
    Nat → Option String → List α → Routine (List α)
  | 0, _, _ => .ended .unfinished
  | rounds + 1, token, items => do
    let page ← Routine.ask (.get (path list token)) (judge read list)
    match continuation token page.next with
    | some next => walkRoutine read list rounds (some next) (items ++ page.items)
    | none => return items ++ page.items

/-- The routine of a walk runs as the walk is made. -/
theorem run_walkRoutine (env : Environment) (read : Json → Option α) (list : String) (rounds : Nat)
    (token : Option String) (items : List α) :
    (walkRoutine read list rounds token items).run env = walk env read list rounds token items := by
  induction rounds generalizing token items with
  | zero => rfl
  | succ rounds inductionHypothesis =>
    rw [walk_succ, walkRoutine, Routine.run_bind, Routine.run_ask]
    congr 1
    funext page
    cases continuation token page.next with
    | none => exact Routine.run_pure _
    | some next => exact inductionHypothesis _ _

/-- Exchanges that lead a walk to its end are those of the walk. -/
theorem walking_of_leads {read : Json → Option α} {list : String} {rounds : Nat}
    {token : Option String} {items : List α} {exchanges : List Exchange}
    {outcome : Outcome (List α)}
    (leads : (walkRoutine read list rounds token items).Leads exchanges (.ended outcome)) :
    Walking read list rounds token items exchanges outcome := by
  induction rounds generalizing token items exchanges with
  | zero =>
    cases leads
    exact .unfinished
  | succ rounds inductionHypothesis =>
    rw [walkRoutine] at leads
    obtain ⟨exchange, rest, rfl, called, after⟩ := leads.of_ask_bind
    cases judged : judge read list exchange.answer with
    | error cause =>
      rw [judged] at after
      cases after
      exact .refused called judged
    | ok page =>
      rw [judged] at after
      change Routine.Leads (match continuation token page.next with
        | some next => walkRoutine read list rounds (some next) (items ++ page.items)
        | none => Pure.pure (items ++ page.items)) rest _ at after
      cases goesOn : continuation token page.next with
      | none =>
        rw [goesOn] at after
        cases after
        exact .last called judged goesOn
      | some next =>
        rw [goesOn] at after
        exact .more called judged goesOn (inductionHypothesis after)

end Page

end VmLaunch
