import VmLaunch.Error
import VmLaunch.Provider.World

/-!
# Work

A piece of work changes a state and ends with a value or an error. Work that a
patient observer does not see end is `unfinished`; it has neither, and nothing
that depends on it happens.
-/

namespace VmLaunch

/-- How a piece of work ends, if it does. -/
inductive Outcome (α : Type) where
  | ok (value : α)
  | error (cause : LaunchError)
  | unfinished
  deriving Inhabited

/-- Work on a state. -/
def Work (σ α : Type) := σ → Outcome α × σ

namespace Work

variable {σ α β : Type}

/-- Work that changes nothing. -/
def pure (value : α) : Work σ α :=
  fun state => (.ok value, state)

/-- One piece of work after another; an error or an unfinished piece is the last. -/
def bind (first : Work σ α) (next : α → Work σ β) : Work σ β :=
  fun state =>
    match first state with
    | (.ok value, state) => next value state
    | (.error cause, state) => (.error cause, state)
    | (.unfinished, state) => (.unfinished, state)

instance : Monad (Work σ) where
  pure := Work.pure
  bind := Work.bind

/-- Work that ends with an error. -/
def fail (cause : LaunchError) : Work σ α :=
  fun state => (.error cause, state)

/-- Work that is not seen to end. -/
def unfinished : Work σ α :=
  fun state => (.unfinished, state)

/-- Read a part of the state. -/
def read (f : σ → α) : Work σ α :=
  fun state => (.ok (f state), state)

/-- Change the state. -/
def change (f : σ → σ) : Work σ Unit :=
  fun state => (.ok (), f state)

/-- Work that is already decided. -/
def ofExcept : Except LaunchError α → Work σ α
  | .ok value => pure value
  | .error cause => fail cause

end Work

namespace Environment

/-- Make one provider call. -/
def call (env : Environment) (call : Call) : Work World Answer :=
  fun world =>
    let reply := env.reply world call
    (.ok reply.answer, world.afterCall call reply)

/-- Sleep. -/
def sleep (env : Environment) (d : Duration) : Work World Unit :=
  fun world => (.ok (), world.afterPause (env.pause world d))

/-- Make a call and end with an error when it fails. -/
def callOr (env : Environment) (call : Call) (onFault : Fault → LaunchError) : Work World Json := do
  match ← env.call call with
  | .ok value => return value
  | .error fault => Work.fail (onFault fault)

end Environment

/-- The value that was read, or an error. -/
def Work.require {σ α : Type} (what : Malformed) : Option α → Work σ α
  | some value => pure value
  | none => fail (.malformed what)

end VmLaunch
