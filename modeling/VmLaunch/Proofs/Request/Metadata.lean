import VmLaunch.Proofs.Request.Wire

/-!
# Metadata that is set in turn

Metadata is built by setting values and flags one after the other. `Tells` says what is left of
such a course: a key stands where it was set first and has the value that it was set to last. A
spec sets its own items first and then what it decides on itself, so its scripts and flags win
over items of the same keys, however those are spelled; `Carries` is what a request shows of that.
-/

namespace VmLaunch

open Text (Tidy)

namespace Metadata

/-- One operation on metadata. -/
inductive Setting where
  | assign (key value : String)
  | toggle (key : String) (flag : Option Bool)

namespace Setting

/-- The items after one operation. -/
def apply (items : Metadata) : Setting → Metadata
  | .assign key value => items.set key value
  | .toggle key flag => items.setFlag key flag

/-- The item that an operation sets; none when the key is blank or the flag is not given. -/
def effect? : Setting → Option (String × String)
  | .assign key value => if Text.blank key then none else some (Text.trim key, value)
  | .toggle _ none => none
  | .toggle key (some flag) =>
    if Text.blank key then none else some (Text.trim key, if flag then "TRUE" else "FALSE")

end Setting

/-- The items after several operations. -/
def build (settings : List Setting) : Metadata :=
  settings.foldl Setting.apply []

/-- The items that operations set, in the order of the operations. -/
def effects (settings : List Setting) : List (String × String) :=
  settings.filterMap Setting.effect?

/-- What is left of operations that were carried out in turn. -/
structure Tells (settings : List Setting) (items : Metadata) : Prop where
  /-- Keys stand in the order in which they were set first. -/
  order : items.map Prod.fst = ((effects settings).map Prod.fst).eraseDups
  distinct : (items.map Prod.fst).Nodup
  tidy : ∀ item ∈ items, Tidy item.1
  /-- A key has the value that it was set to last. -/
  last : ∀ key value, (key, value) ∈ items ↔ (effects settings).reverse.lookup key = some value
  absent_iff : items = [] ↔ ∀ setting ∈ settings, setting.effect? = none

section Put

variable {items : Metadata}

/-- A key that is put keeps its place, or comes last when it is new. -/
theorem map_fst_put (key value : String) (items : Metadata) :
    (put key value items).map Prod.fst =
      if key ∈ items.map Prod.fst then items.map Prod.fst else items.map Prod.fst ++ [key] := by
  induction items with
  | nil => rfl
  | cons first rest inductionHypothesis =>
    obtain ⟨other, old⟩ := first
    rw [put]
    by_cases same : other = key
    · simp [same]
    · have fresh : key ∈ ((other, old) :: rest).map Prod.fst ↔ key ∈ rest.map Prod.fst := by
        simp [Ne.symm same]
      rw [if_neg same, List.map_cons, inductionHypothesis]
      simp only [fresh]
      split <;> rfl

/-- A key that is put has its value, and the others keep theirs. -/
theorem lookup_put (key value : String) (items : Metadata) (other : String) :
    (put key value items).lookup other =
      if other = key then some value else items.lookup other := by
  induction items with
  | nil => by_cases same : other = key <;> simp [put, same]
  | cons first rest inductionHypothesis =>
    obtain ⟨standing, old⟩ := first
    rw [put]
    by_cases here : standing = key
    · subst here
      rw [if_pos rfl, List.lookup_cons, List.lookup_cons]
      by_cases same : other = standing
      · simp [same]
      · simp [same, beq_false_of_ne same]
    · rw [if_neg here, List.lookup_cons, List.lookup_cons, inductionHypothesis]
      by_cases same : other = standing
      · subst same
        simp [here]
      · simp [beq_false_of_ne same]

/-- Where keys are distinct an item is there when its key has its value. -/
theorem mem_iff_lookup (distinct : (items.map Prod.fst).Nodup) (key value : String) :
    (key, value) ∈ items ↔ items.lookup key = some value := by
  induction items with
  | nil => simp
  | cons first rest inductionHypothesis =>
    obtain ⟨other, standing⟩ := first
    obtain ⟨fresh, later⟩ := List.nodup_cons.mp distinct
    by_cases same : key = other
    · subst same
      have gone : (key, value) ∉ rest := fun member =>
        fresh (List.mem_map.mpr ⟨_, member, rfl⟩)
      simp [gone, eq_comm]
    · rw [List.lookup_cons, beq_false_of_ne same, ← inductionHypothesis later]
      simp [same]

end Put

section Course

variable {settings : List Setting}

/-- To apply a setting is to put its effect, if it has one. -/
theorem Setting.apply_eq (items : Metadata) (setting : Setting) :
    setting.apply items =
      match setting.effect? with
      | some (key, value) => put key value items
      | none => items := by
  have named : ∀ key value, items.set key value =
      match (if Text.blank key then none else some (Text.trim key, value)) with
      | some (key, value) => put key value items
      | none => items := by
    intro key value
    by_cases blank : Text.blank key <;> simp [set, Text.filled?, blank]
  cases setting with
  | assign key value => exact named key value
  | toggle key flag =>
    cases flag with
    | none => rfl
    | some flag => exact named key (flagWord flag)

/-- The key of an effect is tidy. -/
theorem Setting.tidy_of_effect? {setting : Setting} {key value : String}
    (effect : setting.effect? = some (key, value)) : Tidy key := by
  have named : ∀ text word, (if Text.blank text then none else some (Text.trim text, word)) =
      some (key, value) → Tidy key := by
    intro text word kept
    by_cases blank : Text.blank text
    · simp [blank] at kept
    · have filled : Text.filled? text = some (Text.trim text) := if_neg blank
      simp only [blank, Bool.false_eq_true, if_false, Option.some.injEq, Prod.mk.injEq] at kept
      exact kept.1 ▸ Text.tidy_of_filled? filled
  cases setting with
  | assign text word => exact named text word effect
  | toggle text flag =>
    cases flag with
    | none => cases effect
    | some flag => exact named text _ effect

/-- One more setting is applied to what the others build. -/
theorem build_concat (settings : List Setting) (setting : Setting) :
    build (settings ++ [setting]) = setting.apply (build settings) := by
  rw [build, List.foldl_append]
  rfl

/-- The effects of settings end with that of the last one. -/
theorem effects_concat (settings : List Setting) (setting : Setting) :
    effects (settings ++ [setting]) = effects settings ++ setting.effect?.toList := by
  rw [effects, List.filterMap_append]
  cases effect : setting.effect? <;> simp [effects, effect]

/-- One more operation leaves its key in its place, or puts a new one behind. -/
theorem map_fst_build (settings : List Setting) :
    (build settings).map Prod.fst = ((effects settings).map Prod.fst).eraseDups := by
  induction settings using List.reverseRecOn with
  | nil => rfl
  | append_singleton settings setting inductionHypothesis =>
    rw [build_concat, effects_concat, Setting.apply_eq]
    cases effect : setting.effect? with
    | none => simpa using inductionHypothesis
    | some item =>
      obtain ⟨key, value⟩ := item
      rw [Option.toList_some, List.map_append, List.map_singleton, Text.eraseDups_concat,
        map_fst_put, inductionHypothesis]
      simp only [List.mem_eraseDups]

/-- One more operation decides on its key and on no other. -/
theorem lookup_build (settings : List Setting) (key : String) :
    (build settings).lookup key = (effects settings).reverse.lookup key := by
  induction settings using List.reverseRecOn with
  | nil => rfl
  | append_singleton settings setting inductionHypothesis =>
    rw [build_concat, effects_concat, Setting.apply_eq, List.reverse_append]
    cases effect : setting.effect? with
    | none => simpa using inductionHypothesis
    | some item =>
      obtain ⟨other, value⟩ := item
      rw [lookup_put, inductionHypothesis, Option.toList_some, List.reverse_singleton,
        List.singleton_append, List.lookup_cons]
      by_cases same : key = other
      · simp [same]
      · simp [same, beq_false_of_ne same]

/-- What settings build has distinct keys. -/
theorem nodup_build (settings : List Setting) : ((build settings).map Prod.fst).Nodup := by
  rw [map_fst_build]
  exact Text.nodup_eraseDups _

/-- What settings build tells of each key what was set last. -/
theorem build_tells (settings : List Setting) : Tells settings (build settings) where
  order := map_fst_build settings
  distinct := nodup_build settings
  tidy item member := by
    have kept : item.1 ∈ (build settings).map Prod.fst := List.mem_map_of_mem member
    rw [map_fst_build, List.mem_eraseDups] at kept
    obtain ⟨effect, among, same⟩ := List.mem_map.mp kept
    obtain ⟨setting, -, sets⟩ := List.mem_filterMap.mp among
    exact same ▸ Setting.tidy_of_effect? sets
  last key value := by
    rw [mem_iff_lookup (nodup_build settings), lookup_build]
  absent_iff := by
    have keyless : build settings = [] ↔ (build settings).map Prod.fst = [] := by simp
    rw [keyless, map_fst_build, List.eq_nil_iff_forall_not_mem]
    simp only [List.mem_eraseDups, ← List.eq_nil_iff_forall_not_mem, List.map_eq_nil_iff]
    exact List.filterMap_eq_nil_iff

end Course

/-- What a spec decides on for keys that are not left to its items. -/
def decided (spec : MachineSpec) : List (String × Option String) :=
  [("startup-script", spec.management.startupScript.filter fun script => !Text.blank script),
    ("shutdown-script", spec.management.shutdownScript.filter fun script => !Text.blank script),
    ("block-project-ssh-keys", spec.identity.blockProjectSshKeys.map flagWord),
    ("enable-oslogin", spec.identity.enableOsLogin.map flagWord),
    ("serial-port-enable", spec.advanced.enableSerialPort.map flagWord)]

/-- The last value that the items of a spec give to a key, whatever blanks are around it. -/
def own? (spec : MachineSpec) (key : String) : Option String :=
  (spec.management.metadata.reverse.find? fun kv => Text.filled? kv.key == some key).map
    Spec.KeyValue.value

/-- The value of a key in the machine of a spec: what is decided on, else what an item gives. -/
def value? (spec : MachineSpec) (key : String) : Option String :=
  ((decided spec).lookup key).join.or (own? spec key)

/-- The metadata of a machine as a part of its request. -/
structure Carries (spec : MachineSpec) (body : Json) : Prop where
  item_iff : ∀ key value,
    encodeItem (key, value) ∈ body.parts [.member "metadata", .member "items", .items] ↔
      value? spec key = some value
  distinct : (body.parts [.member "metadata", .member "items", .items, .member "key"]).Nodup
  absent_iff : body.get? "metadata" = none ↔ ∀ key, value? spec key = none

section Spec

/-- A script is set as it stands unless it is blank. -/
def scriptSettings (key : String) (script : Option String) : List Setting :=
  ((script.filter fun script => !Text.blank script).toList.map (Setting.assign key))

/-- The operations of a spec behind those for its items. -/
def decisions (spec : MachineSpec) : List Setting :=
  scriptSettings "startup-script" spec.management.startupScript ++
    (scriptSettings "shutdown-script" spec.management.shutdownScript ++
      ([.toggle "block-project-ssh-keys" spec.identity.blockProjectSshKeys] ++
        ([.toggle "enable-oslogin" spec.identity.enableOsLogin] ++
          [.toggle "serial-port-enable" spec.advanced.enableSerialPort])))

/-- The operations for the items of a spec. -/
def itemSettings (items : List Spec.KeyValue) : List Setting :=
  items.map fun kv => .assign kv.key kv.value

/-- The pairs of a table whose second part is given. -/
def givenPairs (table : List (String × Option String)) : List (String × String) :=
  table.flatMap fun entry => entry.2.toList.map (Prod.mk entry.1)

/-- To apply the settings for a script is to set the script. -/
theorem foldl_scriptSettings (items : Metadata) (key : String) (script : Option String) :
    (scriptSettings key script).foldl Setting.apply items = items.setScript key script := by
  cases script with
  | none => rfl
  | some script =>
    by_cases blank : Text.blank script <;>
      simp [scriptSettings, setScript, Option.filter, blank, Setting.apply]

/-- The metadata of a spec are built by its own items and then by its decisions. -/
theorem ofSpec_eq_build (spec : MachineSpec) :
    ofSpec spec = build (itemSettings spec.management.metadata ++ decisions spec) := by
  simp only [build, decisions, itemSettings, List.foldl_append, foldl_scriptSettings,
    List.foldl_map]
  rfl

/-- The effects of settings in two parts are those of both. -/
theorem effects_append (first second : List Setting) :
    effects (first ++ second) = effects first ++ effects second :=
  List.filterMap_append

/-- A script has one effect, and a blank one has none. -/
theorem effects_scriptSettings {key : String} (tidy : Tidy key) (script : Option String) :
    effects (scriptSettings key script) =
      (script.filter fun script => !Text.blank script).toList.map (Prod.mk key) := by
  have filled : ¬ Text.blank key := by simpa [Text.blank, tidy.trim_eq] using tidy.filled
  cases given : script.filter fun script => !Text.blank script <;>
    simp [scriptSettings, effects, Setting.effect?, given, filled, tidy.trim_eq]

/-- A flag that is given has one effect. -/
theorem effects_toggle {key : String} (tidy : Tidy key) (flag : Option Bool) :
    effects [.toggle key flag] = (flag.map flagWord).toList.map (Prod.mk key) := by
  have filled : ¬ Text.blank key := by simpa [Text.blank, tidy.trim_eq] using tidy.filled
  cases flag <;> simp [effects, Setting.effect?, filled, tidy.trim_eq, flagWord]

/-- The effects of decisions are the pairs that are given. -/
theorem effects_decisions (spec : MachineSpec) :
    effects (decisions spec) = givenPairs (decided spec) := by
  have tidy : ∀ entry ∈ decided spec, Tidy entry.1 := by
    simp only [decided, List.forall_mem_cons]
    exact ⟨by decide +kernel, by decide +kernel, by decide +kernel, by decide +kernel,
      by decide +kernel, nofun⟩
  simp only [decided, List.forall_mem_cons] at tidy
  obtain ⟨startup, shutdown, keys, login, serial, -⟩ := tidy
  simp only [decisions, effects_append, effects_scriptSettings startup,
    effects_scriptSettings shutdown, effects_toggle keys, effects_toggle login,
    effects_toggle serial, decided, givenPairs, List.flatMap_cons, List.flatMap_nil,
    List.append_nil]

/-- A key of the table has what is given for it. -/
theorem lookup_givenPairs {table : List (String × Option String)}
    (distinct : (table.map Prod.fst).Nodup) (key : String) :
    (givenPairs table).reverse.lookup key = (table.lookup key).join := by
  induction table with
  | nil => rfl
  | cons first rest inductionHypothesis =>
    obtain ⟨name, value⟩ := first
    obtain ⟨fresh, later⟩ := List.nodup_cons.mp distinct
    have split : givenPairs ((name, value) :: rest) =
        value.toList.map (Prod.mk name) ++ givenPairs rest := rfl
    rw [split, List.reverse_append, List.lookup_append, inductionHypothesis later,
      List.lookup_cons]
    by_cases same : key = name
    · subst same
      have gone : rest.lookup key = none := by
        refine List.lookup_eq_none_iff.mpr fun entry member => ?_
        exact bne_iff_ne.mpr fun met => fresh (List.mem_map.mpr ⟨entry, member, met.symm⟩)
      rw [gone, beq_self_eq_true]
      cases value <;> simp
    · rw [beq_false_of_ne same]
      cases value <;> simp [List.lookup_cons, beq_false_of_ne same]

/-- A key of the own items has the value of the last item for it. -/
theorem lookup_itemSettings (items : List Spec.KeyValue) (key : String) :
    (effects (itemSettings items)).reverse.lookup key =
      (items.reverse.find? fun kv => Text.filled? kv.key == some key).map Spec.KeyValue.value := by
  rw [effects, itemSettings, ← List.filterMap_reverse, ← List.map_reverse]
  induction items.reverse with
  | nil => rfl
  | cons first rest inductionHypothesis =>
    rw [List.map_cons, List.find?_cons, List.filterMap_cons]
    by_cases blank : Text.blank first.key
    · have unfilled : Text.filled? first.key = none := if_pos blank
      simpa [Setting.effect?, blank, unfilled] using inductionHypothesis
    · have filled : Text.filled? first.key = some (Text.trim first.key) := if_neg blank
      by_cases same : key = Text.trim first.key
      · simp [Setting.effect?, blank, filled, same]
      · simpa [Setting.effect?, blank, filled, List.lookup_cons, beq_false_of_ne same,
          beq_false_of_ne (Ne.symm same)] using inductionHypothesis

/-- The metadata of a spec have the value that the spec calls for under every key. -/
theorem lookup_ofSpec (spec : MachineSpec) (key : String) :
    (ofSpec spec).lookup key = value? spec key := by
  have distinct : ((decided spec).map Prod.fst).Nodup := by
    simp only [decided, List.map_cons, List.map_nil]
    decide +kernel
  rw [ofSpec_eq_build, lookup_build, effects_append, List.reverse_append, List.lookup_append,
    effects_decisions, lookup_givenPairs distinct, lookup_itemSettings]
  rfl

end Spec

section Request

/-- A request has metadata when there are any. -/
theorem get?_metadata (request : InsertRequest) :
    request.encode.get? "metadata" =
      if request.metadata.isEmpty then none else some request.metadata.encode := by
  simp [InsertRequest.encode, List.lookup_append]

/-- The items in a request are the metadata. -/
theorem parts_items (request : InsertRequest) :
    request.encode.parts [.member "metadata", .member "items", .items] =
      request.metadata.map encodeItem := by
  rw [Json.parts_member, get?_metadata]
  cases request.metadata <;> simp [encode]

/-- Different items are written differently. -/
theorem encodeItem_injective : Function.Injective encodeItem := by
  intro first second same
  simp only [encodeItem, Json.obj.injEq, List.cons.injEq, Prod.mk.injEq, Json.str.injEq] at same
  exact Prod.ext same.1.2 same.2.1.2

/-- The metadata of a spec have distinct keys. -/
theorem nodup_ofSpec (spec : MachineSpec) : ((ofSpec spec).map Prod.fst).Nodup := by
  rw [ofSpec_eq_build]
  exact nodup_build _

/-- A request carries what its spec decides on, and the last of its items for the other keys. -/
theorem assemble_carries (spec : MachineSpec) (scope : Scope) (resolved : Resolved)
    (tags : List String) :
    Carries spec (InsertRequest.assemble spec scope resolved tags).encode where
  item_iff key value := by
    rw [parts_items, List.mem_map_of_injective encodeItem_injective, ← lookup_ofSpec]
    exact mem_iff_lookup (nodup_ofSpec spec) key value
  distinct := by
    have keys : (ofSpec spec).map (fun item => Json.str item.1) =
        ((ofSpec spec).map Prod.fst).map Json.str := by
      rw [List.map_map]
      rfl
    rw [InsertRequest.parts_metadata]
    refine keys ▸ (nodup_ofSpec spec).map fun first second same => ?_
    exact Json.str.inj same
  absent_iff := by
    have missing : (∀ key, value? spec key = none) ↔ ofSpec spec = [] := by
      simp only [← lookup_ofSpec]
      constructor
      · intro unset
        refine List.eq_nil_iff_forall_not_mem.mpr fun item member => ?_
        rw [mem_iff_lookup (nodup_ofSpec spec), unset] at member
        cases member
      · intro empty key
        rw [empty]
        rfl
    rw [get?_metadata, missing]
    exact ite_eq_left_iff.trans (by simp [InsertRequest.assemble])

end Request

/-- Metadata is what was set last for each key, in order of first setting, and a machine has what
its spec decides on and otherwise its own last item for a key. -/
theorem last_setting_wins :
    (∀ settings, Tells settings (build settings)) ∧
      ∀ (spec : MachineSpec) (scope : Scope) (resolved : Resolved) (tags : List String),
        Carries spec (InsertRequest.assemble spec scope resolved tags).encode :=
  ⟨build_tells, assemble_carries⟩

/-- A flag wins over an item of the same key, and stands in its place. -/
example : ofSpec {
    management := { metadata := [⟨" enable-oslogin\t", "TRUE"⟩, ⟨"role", "a"⟩, ⟨"role ", "b"⟩] }
    identity := { enableOsLogin := some false } } =
    [("enable-oslogin", "FALSE"), ("role", "b")] := by decide +kernel

end Metadata

end VmLaunch
