import VmLaunch.Provider.Work
import VmLaunch.Reference
import VmLaunch.Source.Record

/-!
# Operations

The provider answers an insert with an operation and works on it in the
background. `Operation.check` tells a finished operation from a pending and from
a failed one; `Polling.wait` asks for the operation at fixed intervals until it
is decided, the deadline has passed or the run is cancelled.
-/

namespace VmLaunch

/-- One error of an operation. -/
structure OperationFault where
  code : String
  message : String
  deriving DecidableEq, Inhabited

/-- An operation of a zone. -/
structure Operation where
  name : String
  status : String
  targetLink : String
  selfLink : String
  zone : String
  errors : Option (List OperationFault)
  deriving DecidableEq, Inhabited

/-- What is known of an operation that did not fail. -/
inductive Progress where
  | pending
  | done
  deriving DecidableEq, Inhabited

namespace OperationFault

open Source in
/-- Read an error; every field may be missing. -/
def decode (value : Json) : Option OperationFault := do
  let slots ← slots? ["code", "message"] value
  let code ← slots.fieldOr "code" "" Source.text?
  let message ← slots.fieldOr "message" "" Source.text?
  return { code, message }

/-- The message, or the code when there is no message. -/
def reason (f : OperationFault) : String :=
  if f.message == "" then f.code else f.message

end OperationFault

namespace Operation

open Source in
/-- The errors of an operation. -/
def decodeErrors (value : Json) : Option (List OperationFault) := do
  let slots ← slots? ["errors"] value
  slots.fieldOr "errors" [] (list OperationFault.decode)

open Source in
/-- Read an operation; every field may be missing. -/
def decode (value : Json) : Option Operation := do
  let slots ← slots? ["name", "status", "targetLink", "selfLink", "zone", "error"] value
  let name ← slots.fieldOr "name" "" Source.text?
  let status ← slots.fieldOr "status" "" Source.text?
  let targetLink ← slots.fieldOr "targetLink" "" Source.text?
  let selfLink ← slots.fieldOr "selfLink" "" Source.text?
  let zone ← slots.fieldOr "zone" "" Source.text?
  let errors ← slots.fieldOr "error" none (optional decodeErrors)
  return { name, status, targetLink, selfLink, zone, errors }

/-- The first error of an operation. -/
def firstError? (operation : Operation) : Option OperationFault :=
  (operation.errors.getD []).head?

/-- Whether the operation is pending or done; an error when it failed or its status is
not a known one. -/
def check (operation : Operation) : Except LaunchError Progress :=
  if operation.status = "DONE" then
    match operation.firstError? with
    | some fault => .error (.operationFailed fault.reason)
    | none => .ok .done
  else if operation.status = "PENDING" ∨ operation.status = "RUNNING" then .ok .pending
  else .error (.unexpectedStatus operation.name operation.status)

/-- The path of an operation. -/
def path (scope : Scope) (name : String) : String :=
  zoneParent scope.project scope.zone "operations" ++ "/" ++ name

end Operation

/-- How an operation is waited for. -/
structure Polling where
  interval : Duration
  timeout : Duration
  deriving DecidableEq, Inhabited

namespace Polling

/-- Polling when nothing else is asked for. -/
def standard : Polling :=
  ⟨.ofSecs 3, .ofSecs 600⟩

/-- Ask for an operation once. -/
def poll (env : Environment) (scope : Scope) (operation : String) : Work World Operation := do
  let body ← env.callOr (.get (Operation.path scope operation)) (.provider (.poll operation))
  Work.require .operation (Operation.decode body)

/-- End with an error when the signal has fired. -/
def heed (signal : Signal) (operation : String) : Work World Unit := do
  if ← Work.read signal.fired then Work.fail (.cancelled (.waiting operation)) else return ()

/-- Rounds of waiting up to a deadline. The signal is heeded before a sleep and after
it; the deadline is looked at between the sleep and the poll. Polls are not counted here: their
number is only for the log. Where it is kept in 32 bits and overflow is checked, a wait would end
at poll 2^32; this one goes on. -/
def rounds (env : Environment) (polling : Polling) (scope : Scope) (operation : String)
    (signal : Signal) (deadline : Nat) : Nat → Work World Operation
  | 0 => Work.unfinished
  | n + 1 => do
    heed signal operation
    env.sleep polling.interval
    heed signal operation
    if deadline < (← Work.read World.now) then
      Work.fail (.operationTimeout operation)
    else
      let current ← poll env scope operation
      match ← Work.ofExcept current.check with
      | .done => return current
      | .pending => rounds env polling scope operation signal deadline n

/-- Wait until an operation is done. -/
def wait (env : Environment) (polling : Polling) (scope : Scope) (operation : String)
    (signal : Signal) : Work World Operation := do
  let deadline ← Work.read fun world => polling.timeout.after world.now
  rounds env polling scope operation signal deadline env.patience

end Polling

end VmLaunch
