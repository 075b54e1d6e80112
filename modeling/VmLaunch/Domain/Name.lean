import VmLaunch.Domain.Direction
import VmLaunch.Domain.Label

/-!
# Domain names

A name in any script is written in ASCII label by label. Its characters are replaced by
their images and composed, its labels are checked, and the labels beyond ASCII are put
into Punycode. Characters that delimit the parts of an address have no place in it.
-/

namespace VmLaunch.Domain

/-- Whether a character may not stand in a name. -/
def isReserved (c : Char) : Bool :=
  c.toNat ≤ 32 || c.toNat == 127 || "%#/:<>?@[\\]^|".toList.contains c

/-- The labels of a name as they are meant. -/
def labels? (name : String) : Option (List (List Char)) :=
  match name.toList.mapM image? with
  | some images => (Text.splitOn '.' (compose images.flatten)).mapM meaning?
  | none => none

/-- Whether labels may stand beside each other. -/
def agree (labels : List (List Char)) : Bool :=
  !labels.flatten.any isReserved &&
    (!labels.flatten.any isTurning || labels.all keepsDirection)

/-- A name in ASCII. -/
def ascii? (name : String) : Option String :=
  ((labels? name).filter agree).map fun labels =>
    Text.join "." (labels.map fun label => String.ofList (written label))

end VmLaunch.Domain
