import VmLaunch.Json.Basic
import VmLaunch.Provider.Fault
import VmLaunch.Time

/-!
# The provider and the world around a run

A run sees the world through provider calls, a clock and a signal that cancels
it. The `World` retains what has happened so far, and the `Environment` decides
what happens next: how each call is answered, how long it takes and whether the
signal fires meanwhile. Because it decides on the whole history, every behaviour
of a provider is some environment.
-/

namespace VmLaunch

/-- One request to the provider. Paths are relative to the provider's root. -/
inductive Call where
  | get (path : String)
  | getUrl (url : String)
  | post (path : String) (body : Json)
  deriving Inhabited

/-- What a call yields. -/
abbrev Answer := Except Fault Json

/-- A call with its answer and the time at which it was made. -/
structure Exchange where
  call : Call
  answer : Answer
  time : Nat

/-- What has happened so far; exchanges in order. -/
structure World where
  now : Nat := 0
  cancelled : Bool := false
  history : List Exchange := []

/-- What happens while a call is answered. -/
structure Reply where
  answer : Answer
  elapsed : Nat := 0
  interrupts : Bool := false

/-- What happens during a sleep. -/
structure Pause where
  elapsed : Nat
  interrupts : Bool := false

/-- What decides about the future of a world. A walk or a wait that could go on
for ever is followed for `patience` rounds. -/
structure Environment where
  project : String
  requestId : World → String
  reply : World → Call → Reply
  pause : World → Duration → Pause
  patience : Nat

/-- Whether a run heeds the cancellation of the world. -/
inductive Signal where
  | never
  | shared
  deriving DecidableEq, Inhabited

/-- Whether a signal has fired. -/
def Signal.fired (signal : Signal) (world : World) : Bool :=
  match signal with
  | .never => false
  | .shared => world.cancelled

namespace World

/-- The calls made so far, in order. -/
def calls (world : World) : List Call :=
  world.history.map Exchange.call

/-- The world after a call. -/
def afterCall (world : World) (call : Call) (reply : Reply) : World where
  now := world.now + reply.elapsed
  cancelled := world.cancelled || reply.interrupts
  history := world.history ++ [⟨call, reply.answer, world.now⟩]

/-- The world after a sleep. -/
def afterPause (world : World) (pause : Pause) : World :=
  { world with
    now := world.now + pause.elapsed
    cancelled := world.cancelled || pause.interrupts }

/-- The world a while later. -/
def advance (world : World) (d : Duration) : World :=
  { world with now := d.after world.now }

/-- The world after its signal was fired. -/
def cancel (world : World) : World :=
  { world with cancelled := true }

end World

/-- Sleep on a clock that a sleep advances by exactly its length. -/
def Pause.manual (_ : World) (d : Duration) : Pause where
  elapsed := d.span.nanos

end VmLaunch
