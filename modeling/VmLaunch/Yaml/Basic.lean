/-!
# YAML trees

A `Yaml` retains what a document says before anything is expected of it: scalars with
the way in which they are written, lists, mappings with keys of any kind, and the tags
that values carry.
-/

namespace VmLaunch

namespace Yaml

/-- How a scalar is written. -/
inductive Style where
  | plain
  | quoted
  | literal
  | folded
  deriving DecidableEq, Inhabited

/-- A scalar with its tag, when it has one. -/
structure Scalar where
  text : String
  style : Style := .plain
  tag : Option String := none
  deriving DecidableEq, Inhabited

end Yaml

/-- A YAML value. A document without content is `void`; `beyond` is a value that is
nested too deep to be read. -/
inductive Yaml where
  | void
  | beyond
  | scalar (value : Yaml.Scalar)
  | list (tag : Option String) (items : List Yaml)
  | mapping (tag : Option String) (members : List (Yaml × Yaml))
  deriving Inhabited

namespace Yaml

/-- The scalar that stands where nothing is written. -/
def blank : Yaml :=
  .scalar { text := "" }

mutual

/-- The tree with every list and mapping beyond a number of levels out of reach. -/
def within : Nat → Yaml → Yaml
  | 0, .list _ _ => .beyond
  | 0, .mapping _ _ => .beyond
  | room + 1, .list tag items => .list tag (itemsWithin room items)
  | room + 1, .mapping tag members => .mapping tag (membersWithin room members)
  | _, tree => tree

/-- The items within a number of levels. -/
def itemsWithin (room : Nat) : List Yaml → List Yaml
  | [] => []
  | tree :: rest => within room tree :: itemsWithin room rest

/-- The members within a number of levels. -/
def membersWithin (room : Nat) : List (Yaml × Yaml) → List (Yaml × Yaml)
  | [] => []
  | (key, tree) :: rest => (within room key, within room tree) :: membersWithin room rest

end

end Yaml

end VmLaunch
