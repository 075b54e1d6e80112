import VmLaunch.Json.Basic
import VmLaunch.Spec.Basic
import VmLaunch.Text.Blank

/-!
# Metadata, labels and tags of a request

Metadata is an ordered list of items: setting a key again replaces its value in
place. Labels are sorted by key and the first value of a key is kept. Tags keep
their order of first appearance.
-/

namespace VmLaunch

/-- Metadata items in order of the first setting of their keys. -/
abbrev Metadata := List (String × String)

namespace Metadata

/-- Replace the value of a key in place, or add the item at the end. -/
def put (key value : String) : Metadata → Metadata
  | [] => [(key, value)]
  | (k, v) :: rest => if k = key then (k, value) :: rest else (k, v) :: put key value rest

/-- Set a key; a blank key has no effect. -/
def set (items : Metadata) (key value : String) : Metadata :=
  match Text.filled? key with
  | some key => put key value items
  | none => items

/-- The word of a flag. -/
def flagWord (flag : Bool) : String :=
  if flag then "TRUE" else "FALSE"

/-- Set a key to the word of a flag; an unset flag has no effect. -/
def setFlag (items : Metadata) (key : String) (flag : Option Bool) : Metadata :=
  match flag with
  | some flag => items.set key (flagWord flag)
  | none => items

/-- Set a key to a script as it stands; a blank script has no effect. -/
def setScript (items : Metadata) (key : String) (script : Option String) : Metadata :=
  match script with
  | some script => if Text.blank script then items else items.set key script
  | none => items

/-- The metadata of a spec: its own items, the scripts, then the login flags. -/
def ofSpec (spec : MachineSpec) : Metadata :=
  let own := spec.management.metadata.foldl (fun items kv => set items kv.key kv.value) []
  (((((own.setScript "startup-script" spec.management.startupScript).setScript
    "shutdown-script" spec.management.shutdownScript).setFlag
    "block-project-ssh-keys" spec.identity.blockProjectSshKeys).setFlag
    "enable-oslogin" spec.identity.enableOsLogin).setFlag
    "serial-port-enable" spec.advanced.enableSerialPort)

/-- One item. -/
def encodeItem (item : String × String) : Json :=
  .obj [("key", .str item.1), ("value", .str item.2)]

/-- The items as a part of a request. -/
def encode (items : Metadata) : Json :=
  .obj [("items", .arr (items.map encodeItem))]

end Metadata

namespace Labels

/-- Add a label in order of its key unless the key has a value. -/
def insert (key value : String) : List (String × String) → List (String × String)
  | [] => [(key, value)]
  | (k, v) :: rest =>
    if key = k then (k, v) :: rest
    else if key < k then (key, value) :: (k, v) :: rest
    else (k, v) :: insert key value rest

/-- Add a label of a spec; a blank key has no effect. -/
def add (labels : List (String × String)) (kv : Spec.KeyValue) : List (String × String) :=
  match Text.filled? kv.key with
  | some key => insert key (Text.trim kv.value) labels
  | none => labels

/-- The labels of a spec, sorted by key. -/
def ofSpec (labels : List Spec.KeyValue) : List (String × String) :=
  labels.foldl add []

/-- The labels as a part of a request. -/
def encode (labels : List (String × String)) : Json :=
  .obj (labels.map fun (key, value) => (key, .str value))

end Labels

namespace Tags

/-- The tags that are not blank, trimmed, each once. -/
def ofTexts (texts : List String) : List String :=
  (Text.filledAll texts).eraseDups

/-- The tags as a part of a request. -/
def encode (tags : List String) : Json :=
  .obj [("items", Json.strs tags)]

end Tags

end VmLaunch
