import VmLaunch.Catalog.Entry.Compute
import VmLaunch.Catalog.Entry.Network
import VmLaunch.Url.Address
import VmLaunch.Provider.Work

/-!
# Looking references up

Image families, reserved addresses and the network of a subnetwork change under
their names, so each lookup asks the provider and nothing is stored.
-/

namespace VmLaunch.Lookup

variable (env : Environment)

/-- The error of a lookup whose call failed. -/
def onFault (kind : LookupKind) (reference : String) (fault : Fault) : LaunchError :=
  .unresolved kind reference (.callFailed fault)

/-- A text that must not be empty, or why the lookup gave nothing. -/
def nonEmpty (kind : LookupKind) (reference : String) (cause : LookupCause) (text : String) :
    Work World String :=
  if text == "" then Work.fail (.unresolved kind reference cause) else return text

/-- The path of the latest image of a family. -/
def imageFamily (imageProject family : String) : Work World String := do
  let body ← env.callOr (.get (imageFamilyPath family imageProject)) (onFault .imageFamily family)
  let image ← Work.require (.imageFamily family) (Image.decode body)
  nonEmpty .imageFamily family .noSelfLink image.selfLink

/-- The address of a literal, which is itself, or of a reserved name. -/
def address (project region text : String) : Work World String := do
  let value := Text.trim text
  if Address.isLiteral value then return value
  else
    let name ← nonEmpty .address value .emptyName (shortName value)
    let body ← env.callOr (.get (regionParent project region "addresses" ++ "/" ++ name))
      (onFault .address value)
    let reserved ← Work.require (.address name) (ReservedAddress.decode body)
    nonEmpty .address value .noIp reserved.address

/-- The call that fetches a subnetwork: by its address when it is one, else by its path. -/
def subnetworkCall (project region reference : String) : Call :=
  if Text.startsWith reference "https://" then .getUrl reference
  else .get (subnetworkPath reference project region)

/-- The network that a subnetwork belongs to. -/
def subnetworkNetwork (project region subnetwork : String) : Work World String := do
  let reference := Text.trim subnetwork
  let body ← env.callOr (subnetworkCall project region reference)
    (onFault .subnetwork subnetwork)
  let subnet ← Work.require (.subnetwork reference) (Subnetwork.decode body)
  nonEmpty .subnetwork subnetwork .noNetwork subnet.network

end VmLaunch.Lookup
