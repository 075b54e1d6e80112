import VmLaunch.Proofs.Json.Members
import VmLaunch.Proofs.Source.Form
import VmLaunch.Spec.Decode
import VmLaunch.Spec.Encode

/-!
# Sections of an encoded spec

Each section of a spec is read back from its encoding in every form: an optional value from `null`
or from what is not, a word from its text, an alternative with data from its tag and the members
beside it. The fields of the machine shape stand among those of the spec and are read from what the
spec itself leaves over.
-/

namespace VmLaunch.Spec

open Source

variable {ν : Type} [Source ν] (form : Form ν)

section Words

/-- A provisioning model is told by its word. -/
theorem ProvisioningModel.ofWord?_word (model : ProvisioningModel) :
    ProvisioningModel.ofWord? model.word = some model := by
  cases model <;> rfl

/-- A reaction to maintenance is told by its word. -/
theorem HostMaintenance.ofWord?_word (reaction : HostMaintenance) :
    HostMaintenance.ofWord? reaction.word = some reaction := by
  cases reaction <;> rfl

/-- A technology is told by its word. -/
theorem ConfidentialType.ofWord?_word (technology : ConfidentialType) :
    ConfidentialType.ofWord? technology.word = some technology := by
  cases technology <;> rfl

end Words

section Readers

/-- A value that is told by its word is read back. -/
theorem choice_tree {α : Type} {word : α → String} {ofWord? : String → Option α}
    (inverse : ∀ value, ofWord? (word value) = some value) (all : List α) (value : α) :
    choice ofWord? all (form.tree (.str (word value))) = some value := by
  simp [choice, inverse]

variable {form}

/-- An optional flag is read back. -/
@[simp]
theorem optionalFlagOf_tree (flag : Option Bool) :
    optionalFlagOf (form.tree (optionalFlag flag)) = some flag :=
  Form.optional_tree form.flag?_tree (fun _ => rfl) flag

/-- An optional integer is read back. -/
@[simp]
theorem optionalInt64Of_tree (n : Option Int64) :
    optionalInt64Of (form.tree (optionalInt64 n)) = some n :=
  Form.optional_tree (fun _ => Form.int64_tree form _) (fun _ => rfl) n

/-- An optional text is read back. -/
@[simp]
theorem optionalText_optionalStr (text : Option String) :
    optionalText (form.tree (optionalStr text)) = some text :=
  Form.optionalText_tree text

/-- The entries beside a tag are taken as they look. -/
theorem looseEntries?_tree (ordered : List (String × Json)) :
    looseEntries? (ordered.map fun member => (Loose.text member.1, form.embed member.2)) =
      some (Loose.named (ordered.map (Prod.map id Loose.ofJson))) := by
  induction ordered with
  | nil => rfl
  | cons first rest ih =>
    obtain ⟨name, value⟩ := first
    rw [List.map_cons, looseEntries?, ih, form.answers.loose?]
    rfl

/-- The members of an object under its tag and beside it. -/
theorem filter_tag {tag : String} {chosen : Json} {members ordered : List (String × Json)}
    (fresh : tag ∉ members.map Prod.fst) (perm : ordered.Perm ((tag, chosen) :: members)) :
    ordered.filter (fun member => member.1 == tag) = [(tag, chosen)] ∧
      (ordered.filter fun member => member.1 != tag).Perm members := by
  have others : ∀ member ∈ members, (member.1 == tag) = false := by
    intro member among
    refine beq_false_of_ne ?_
    rintro rfl
    exact fresh (List.mem_map_of_mem among)
  constructor
  · have filtered := perm.filter fun member => member.1 == tag
    have none : members.filter (fun member => member.1 == tag) = [] :=
      List.filter_eq_nil_iff.2 fun member among => by simp [others member among]
    rw [List.filter_cons_of_pos (by simp), none] at filtered
    exact List.perm_singleton.1 filtered
  · have filtered := perm.filter fun member => member.1 != tag
    have all : members.filter (fun member => member.1 != tag) = members :=
      List.filter_eq_self.2 fun member among => by simp [bne, others member among]
    rwa [List.filter_cons_of_neg (by simp), all] at filtered

/-- An alternative with data is read from its object when it can be read from its word and its
other members, in whatever order these are. -/
theorem bind_tagged? {α : Type} {tag word : String} {members : List (String × Json)}
    (distinct : (tag :: members.map Prod.fst).Nodup) {read : String × Loose → Option α} {value : α}
    (reads : ∀ entries : List (String × Loose), entries.Perm (form.loose.branches members) →
      read (word, .mapping (Loose.named entries)) = some value) :
    tagged? tag (form.tree (.obj ((tag, .str word) :: members))) >>= read = some value := by
  obtain ⟨fresh, -⟩ := List.nodup_cons.1 distinct
  obtain ⟨ordered, same, perm⟩ := form.rearranges.obj ((tag, .str word) :: members) distinct
  rw [List.map_cons, Prod.map, id, form.rearranges.str] at perm
  obtain ⟨atTag, beside⟩ := filter_tag (by rwa [keys_map]) perm
  have entries : Source.collection? (form.tree (.obj ((tag, .str word) :: members))) =
      some (.mapping (ordered.map fun member => (Loose.text member.1, form.embed member.2))) := by
    rw [Form.tree, same, form.answers.collection?, textEntries, List.map_map]
    rfl
  have looks := beside.map (Prod.map id Loose.ofJson)
  rw [List.map_map] at looks
  have isTag : (fun entry : Loose × ν => isKey tag entry.1) ∘
      (fun member => (Loose.text member.1, form.embed member.2)) =
      fun member : String × Json => member.1 == tag := rfl
  have isOther : (fun entry : Loose × ν => !isKey tag entry.1) ∘
      (fun member => (Loose.text member.1, form.embed member.2)) =
      fun member : String × Json => member.1 != tag := rfl
  simp only [tagged?, entries, List.filter_map, isTag, isOther, atTag, List.map_cons, List.map_nil,
    form.answers.text?, looseEntries?_tree, Option.bind_eq_bind, Option.bind_some,
    Option.pure_def]
  exact reads _ looks

/-- The data of an alternative is read when it can be read from all slots that hold its members. -/
theorem bind_tagged?_slots {α : Type} {tag word : String} {names : List String}
    {members : List (String × Json)} (distinct : (tag :: members.map Prod.fst).Nodup)
    {choose : String × Loose → Option α} {read : Slots Loose → Option α} {value : α}
    (chosen : ∀ fields, choose (word, fields) = slots? names fields >>= read)
    (reads : ∀ slots, form.loose.Holds names slots members → read slots = some value) :
    tagged? tag (form.tree (.obj ((tag, .str word) :: members))) >>= choose = some value := by
  apply bind_tagged? distinct
  intro entries perm
  rw [chosen]
  exact Form.bind_slots?_named perm (List.nodup_cons.1 distinct).2 reads

end Readers

/-- A key with its value is read back. -/
theorem KeyValue.decode_tree (entry : KeyValue) :
    KeyValue.decode (form.tree entry.encode) = some entry := by
  apply Form.bind_slots? (by simp)
  intro slots holds
  simp [holds.fieldOr]

/-- An accelerator is read back. -/
theorem Accelerator.decode_tree (accelerator : Accelerator) :
    Accelerator.decode (form.tree accelerator.encode) = some accelerator := by
  apply Form.bind_slots? (by simp)
  intro slots holds
  simp [holds.fieldOr]

/-- An affinity is read back. -/
theorem NodeAffinity.decode_tree (affinity : NodeAffinity) :
    NodeAffinity.decode (form.tree affinity.encode) = some affinity := by
  apply Form.bind_slots? (by simp)
  intro slots holds
  simp [holds.fieldOr]

/-- The advanced section is read back. -/
theorem Advanced.decode_tree (advanced : Advanced) :
    Advanced.decode (form.tree advanced.encode) = some advanced := by
  apply Form.bind_slots? (by simp)
  intro slots holds
  simp [holds.fieldOr, Form.list_tree (Accelerator.decode_tree form),
    Form.list_tree (NodeAffinity.decode_tree form), Form.list_tree (KeyValue.decode_tree form)]

/-- The management section is read back. -/
theorem Management.decode_tree (management : Management) :
    Management.decode (form.tree management.encode) = some management := by
  apply Form.bind_slots? (by simp)
  intro slots holds
  simp [holds.fieldOr, Form.list_tree (KeyValue.decode_tree form),
    choice_tree form HostMaintenance.ofWord?_word]

/-- The identity section is read back. -/
theorem Identity.decode_tree (identity : Identity) :
    Identity.decode (form.tree identity.encode) = some identity := by
  apply Form.bind_slots? (by simp)
  intro slots holds
  simp [holds.fieldOr]

/-- The checks of a shielded machine are read back. -/
theorem ShieldedVm.decode_tree (checks : ShieldedVm) :
    ShieldedVm.decode (form.tree checks.encode) = some checks := by
  apply Form.bind_slots? (by simp)
  intro slots holds
  simp [holds.fieldOr]

/-- The security section is read back. -/
theorem Security.decode_tree (security : Security) :
    Security.decode (form.tree security.encode) = some security := by
  apply Form.bind_slots? (by simp)
  intro slots holds
  have technology := Form.optional_tree
    (choice_tree form ConfidentialType.ofWord?_word ConfidentialType.all) (fun _ => rfl)
  simp [holds.fieldOr, Form.optional_tree (ShieldedVm.decode_tree form) (fun _ => rfl), technology]

/-- A rule is read back with its texts as they are. -/
theorem RuleText.decode_tree (rule : RuleText) :
    RuleText.decode (form.tree rule.encode) = some rule := by
  apply Form.bind_slots? (by simp)
  intro slots holds
  have priority := Form.optional_tree (Form.nat32_tree form) (fun _ => rfl)
  simp [holds.fieldOr, priority]

/-- The text of a static address is read from its only field. -/
theorem staticAddress_named {address : String} {entries : List (String × Loose)}
    (perm : entries.Perm (form.loose.branches [("address", .str address)])) :
    staticAddress (.mapping (Loose.named entries)) = some address := by
  apply Form.bind_slots?_named perm (by simp)
  intro slots holds
  simp [holds.field]

/-- An internal address is read back, of whichever type. -/
theorem InternalAddress.decode_tree (address : InternalAddress) :
    InternalAddress.decode (form.tree address.encode) = some address := by
  cases address with
  | ephemeral => exact bind_tagged? (by simp) fun entries perm => by simp [noFields]
  | static address =>
    refine bind_tagged? (by simp) fun entries perm => ?_
    simp [staticAddress_named form perm]

/-- An external address is read back, of whichever type. -/
theorem ExternalAddress.decode_tree (address : ExternalAddress) :
    ExternalAddress.decode (form.tree address.encode) = some address := by
  cases address with
  | absent => exact bind_tagged? (by simp) fun entries perm => by simp [noFields]
  | ephemeral => exact bind_tagged? (by simp) fun entries perm => by simp [noFields]
  | static address =>
    refine bind_tagged? (by simp) fun entries perm => ?_
    simp [staticAddress_named form perm]

/-- The networking section is read back. -/
theorem Networking.decode_tree (networking : Networking) :
    Networking.decode (form.tree networking.encode) = some networking := by
  apply Form.bind_slots? (by simp)
  intro slots holds
  simp [holds.fieldOr, InternalAddress.decode_tree, ExternalAddress.decode_tree,
    Form.list_tree (RuleText.decode_tree form)]

/-- An additional disk is read back, of whichever mode. -/
theorem ExtraDisk.decode_tree (disk : ExtraDisk) :
    ExtraDisk.decode (form.tree disk.encode) = some disk := by
  cases disk with
  | existing disk readOnly autoDelete deviceName =>
    apply bind_tagged?_slots (by simp) fun _ => rfl
    intro slots holds
    simp [holds.field, holds.fieldOr]
  | new name sizeGb diskType autoDelete kmsKey =>
    apply bind_tagged?_slots (by simp) fun _ => rfl
    intro slots holds
    simp [holds.fieldOr]

/-- An object with one member is loosened to a mapping of one text. -/
theorem loose_tree_singleton (key : String) (value : Json) :
    form.loose.tree (.obj [(key, value)]) = .mapping [(.text key, form.loose.tree value)] := by
  obtain ⟨ordered, same, perm⟩ := form.rearranges.obj [(key, value)] (by simp)
  have alone : ordered = [(key, form.order value)] := List.perm_singleton.1 perm
  have looks : form.loose.tree (.obj [(key, value)]) = Loose.ofJson (.obj ordered) :=
    congrArg Loose.ofJson same
  rw [looks, alone]
  rfl

/-- A text is loosened to itself. -/
theorem loose_tree_str (text : String) : form.loose.tree (.str text) = .text text :=
  congrArg Loose.ofJson (form.rearranges.str text)

/-- The choice of an image is read back from its loosened form. -/
theorem ImageChoice.decode_tree (choice : ImageChoice) :
    ImageChoice.decode (form.loose.tree choice.encode) = some choice := by
  cases choice with
  | name text =>
    rw [encode, loose_tree_singleton, loose_tree_str]
    rfl
  | family text =>
    rw [encode, loose_tree_singleton, loose_tree_str]
    rfl

/-- A source of the boot disk is read back, of whichever type. -/
theorem BootSource.decode_tree (source : BootSource) :
    BootSource.decode (form.tree source.encode) = some source := by
  cases source with
  | publicImage imageProject choice =>
    apply bind_tagged?_slots (by simp) fun _ => rfl
    intro slots holds
    simp [holds.field, ImageChoice.decode_tree]
  | customImage image =>
    apply bind_tagged?_slots (by simp) fun _ => rfl
    intro slots holds
    simp [holds.field]
  | snapshot snapshot =>
    apply bind_tagged?_slots (by simp) fun _ => rfl
    intro slots holds
    simp [holds.field]
  | existingDisk disk =>
    apply bind_tagged?_slots (by simp) fun _ => rfl
    intro slots holds
    simp [holds.field]

/-- The boot disk is read back. -/
theorem BootDisk.decode_tree (disk : BootDisk) :
    BootDisk.decode (form.tree disk.encode) = some disk := by
  apply Form.bind_slots? (by simp)
  intro slots holds
  have source := Form.optional_tree (BootSource.decode_tree form)
    (fun source => by cases source <;> rfl) disk.source
  simp [holds.fieldOr, source]

/-- The shape is read from members that show its own, whatever else they show. -/
theorem Shape.ofMembers?_of_lookup (shape : Shape) {members : List (String × Loose)}
    (distinct : (members.map Prod.fst).Nodup)
    (shown : ∀ name ∈ shapeNames,
      members.lookup name = (shape.members.lookup name).map form.loose.tree) :
    Shape.ofMembers? members = some shape := by
  obtain ⟨slots, read, holds⟩ : ∃ slots, knownSlots? shapeNames members = some slots ∧
      form.loose.Holds shapeNames slots shape.members := by
    refine ⟨_, knownSlots?_of_nodup distinct shapeNames, fun name known => ?_⟩
    rw [lookup_filter (by simp [known]), shown name known]
  rw [Shape.ofMembers?, read]
  rw [shapeNames] at holds
  simp [holds.fieldOr, Shape.members, choice_tree form.loose ProvisioningModel.ofWord?_word]

/-- The members beside the fields of the spec itself, as they look. -/
theorem restMembers?_tree (ordered : List (String × Json)) :
    restMembers? (ordered.map (Prod.map id form.embed)) =
      some ((ordered.filter fun member => !specNames.contains member.1).map
        (Prod.map id Loose.ofJson)) := by
  have looks : ∀ kept : List (String × Json),
      (kept.map (Prod.map id form.embed)).mapM (fun entry =>
        (Source.loose? entry.2).map fun value => (entry.1, value)) =
      some (kept.map (Prod.map id Loose.ofJson)) := by
    intro kept
    induction kept with
    | nil => rfl
    | cons first rest ih =>
      obtain ⟨name, value⟩ := first
      simp [List.mapM_cons, form.answers.loose?, ih]
  rw [restMembers?, List.filter_map]
  exact looks _

/-- The shape is read from what the fields of the spec itself leave over. -/
theorem Shape.ofMembers?_tree (shape : Shape) {members ordered : List (String × Json)}
    (perm : ordered.Perm (members.map (Prod.map id form.order)))
    (distinct : (members.map Prod.fst).Nodup)
    (shown : ∀ name ∈ shapeNames, members.lookup name = shape.members.lookup name) :
    Shape.ofMembers? ((ordered.filter fun member => !specNames.contains member.1).map
      (Prod.map id Loose.ofJson)) = some shape := by
  have apart : (ordered.map Prod.fst).Nodup := by
    rwa [(perm.map Prod.fst).nodup_iff, keys_map]
  apply Shape.ofMembers?_of_lookup form
  · rw [keys_map]
    exact apart.sublist (List.filter_sublist.map Prod.fst)
  · intro name known
    have beside : (!specNames.contains name) = true := by
      revert name
      decide
    rw [lookup_map, lookup_filter fun _ => beside, lookup_eq_of_perm perm apart, lookup_map,
      Option.map_map, shown name known]
    rfl

end VmLaunch.Spec

namespace VmLaunch

open Source Spec

variable {ν : Type} [Source ν] (form : Form ν)

/-- A spec is read back from its encoding in every form. -/
theorem MachineSpec.decode_tree (spec : MachineSpec) :
    MachineSpec.decode (form.tree spec.encode) = some spec := by
  obtain ⟨members, encoded, distinct, shown⟩ : ∃ members, spec.encode = .obj members ∧
      (members.map Prod.fst).Nodup ∧
      ∀ name ∈ shapeNames, members.lookup name = spec.machine.members.lookup name :=
    ⟨_, rfl, by simp [Shape.members], by simp [Shape.members, shapeNames]⟩
  obtain ⟨ordered, same, perm⟩ := form.rearranges.obj members distinct
  have entries : Source.members? (form.tree spec.encode) =
      some (ordered.map (Prod.map id form.embed)) := by
    rw [Form.tree, encoded, same, form.answers.members?]
  obtain ⟨slots, own, holds⟩ :=
    Form.exists_knownSlots? (form.perm_branches perm) distinct specNames
  have machine := Shape.ofMembers?_tree form spec.machine perm distinct shown
  -- What the slots hold are now the members of this spec.
  rw [MachineSpec.encode, Json.obj.injEq] at encoded
  subst encoded
  rw [specNames] at holds
  obtain ⟨instanceName, project, region, zone⟩ :
      slots.fieldOr "instanceName" "" Source.text? = some spec.instanceName ∧
      slots.fieldOr "project" none optionalText = some spec.project ∧
      slots.fieldOr "region" none optionalText = some spec.region ∧
      slots.fieldOr "zone" "" Source.text? = some spec.zone := by
    simp [holds.fieldOr]
  have extra := Form.list_tree (ExtraDisk.decode_tree form) spec.additionalDisks
  obtain ⟨bootDisk, additionalDisks, localSsdCount⟩ :
      slots.fieldOr "bootDisk" {} BootDisk.decode = some spec.bootDisk ∧
      slots.fieldOr "additionalDisks" [] (list ExtraDisk.decode) = some spec.additionalDisks ∧
      slots.fieldOr "localSsdCount" 0 int64 = some spec.localSsdCount := by
    simp [holds.fieldOr, Shape.members, BootDisk.decode_tree, extra]
  obtain ⟨networking, security, identity, management, advanced⟩ :
      slots.fieldOr "networking" {} Networking.decode = some spec.networking ∧
      slots.fieldOr "security" {} Security.decode = some spec.security ∧
      slots.fieldOr "identity" {} Identity.decode = some spec.identity ∧
      slots.fieldOr "management" {} Management.decode = some spec.management ∧
      slots.fieldOr "advanced" {} Advanced.decode = some spec.advanced := by
    simp [holds.fieldOr, Shape.members, Networking.decode_tree, Security.decode_tree,
      Identity.decode_tree, Management.decode_tree, Advanced.decode_tree]
  -- The readers are rewritten one by one, because to simplify below so many binds takes too long.
  rw [MachineSpec.decode, entries, Option.bind_eq_bind, Option.bind_some, own, Option.bind_eq_bind,
    Option.bind_some, restMembers?_tree, Option.bind_eq_bind, Option.bind_some, instanceName,
    project, region, zone, machine, bootDisk, additionalDisks, localSsdCount, networking, security,
    identity, management, advanced]
  rfl

end VmLaunch
