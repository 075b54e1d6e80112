import VmLaunch.Text.Pieces

/-!
# Provider faults

A call that fails yields a chain of messages: the outermost says what was
attempted, each later one what caused the one before it.
-/

namespace VmLaunch

/-- Why a provider call failed. -/
structure Fault where
  outermost : String
  causes : List String
  deriving DecidableEq, Inhabited

namespace Fault

/-- A fault without a further cause. -/
def of (message : String) : Fault :=
  ⟨message, []⟩

/-- A fault of several messages, the outermost first. -/
def ofChain : List String → Fault
  | [] => of ""
  | message :: causes => ⟨message, causes⟩

/-- Every message, the outermost first. -/
def chain (f : Fault) : String :=
  Text.join ": " (f.outermost :: f.causes)

end Fault

end VmLaunch
