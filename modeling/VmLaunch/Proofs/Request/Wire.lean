import Mathlib.Data.List.Nodup
import VmLaunch.Proofs.Json.Parts
import VmLaunch.Proofs.Request.Disks
import VmLaunch.Proofs.Request.Neat

/-!
# What is sent

Whatever is unset or empty is left out of a request and of the payload of a rule, so no part of
them is empty, and the names in them are tidy. `Clean` is what the provider sees of that; it
follows from what the sections owe to it.
-/

namespace VmLaunch

open Json (Hop DenseMembers)
open Text (Tidy)

/-- Texts, each of them tidy. -/
def TidyTexts (parts : List Json) : Prop :=
  ∀ part ∈ parts, ∃ text, part = .str text ∧ Tidy text

/-- A body without empty parts, with tidy names in some places and distinct ones in one place. -/
structure Clean (names : List (List Hop)) (distinct : List Hop) (body : Json) : Prop where
  dense : body.Dense
  tidy : ∀ place ∈ names, TidyTexts (body.parts place)
  nodup : (body.parts distinct).Nodup

section TidyTexts

variable {α : Type} {values : List α}

/-- Tidy names of values are tidy texts. -/
theorem tidyTexts_map {name : α → String} (tidy : ∀ value ∈ values, Tidy (name value)) :
    TidyTexts (values.map fun value => .str (name value)) :=
  List.forall_mem_map.mpr fun value member => ⟨name value, rfl, tidy value member⟩

/-- Tidy texts in each part are tidy texts together. -/
theorem tidyTexts_flatMap {parts : α → List Json}
    (each : ∀ value ∈ values, TidyTexts (parts value)) : TidyTexts (values.flatMap parts) := by
  intro part member
  obtain ⟨value, among, within⟩ := List.mem_flatMap.mp member
  exact each value among part within

/-- A tidy name by itself is a tidy text. -/
theorem tidyTexts_singleton {text : String} (tidy : Tidy text) : TidyTexts [.str text] := by
  simpa [TidyTexts] using tidy

end TidyTexts

section Dense

/-- What is written of a disk to create has no empty part. -/
theorem NewDisk.dense_encode (made : NewDisk) : made.encode.Dense := by
  rcases made with ⟨name, path | path | _, sizeGb, diskType, policies⟩ <;>
    exact Json.dense_obj (by simp) (by simp)

/-- What is written of an attached disk has no empty part. -/
theorem AttachedDisk.dense_encode (disk : AttachedDisk) : disk.encode.Dense := by
  have scratch : ∀ diskType, (Json.obj [("diskType", .str diskType)]).Dense := fun _ =>
    Json.dense_obj (by simp) (by simp)
  have keyed : ∀ key, (Json.obj [("kmsKeyName", .str key)]).Dense := fun _ =>
    Json.dense_obj (by simp) (by simp)
  rcases disk with ⟨boot, autoDelete, ⟨source, readOnly⟩ | made | diskType, deviceName, kmsKey⟩ <;>
    exact Json.dense_obj (by simp)
      (by simp [DiskContent.attachment, DiskContent.parameters, keyed, scratch,
        NewDisk.dense_encode])

/-- What is written of the access from outside has no empty part. -/
theorem NatAccess.dense_encode (access : NatAccess) : access.encode.Dense :=
  Json.dense_obj (by simp) (by simp)

/-- An interface on a network or a subnetwork shows it. -/
theorem NetworkInterface.dense_encode {interface : NetworkInterface}
    (placed : interface.network.isSome ∨ interface.subnetwork.isSome) :
    interface.encode.Dense := by
  have shown : ∀ {key : String} {value : Option String}, value.isSome →
      Json.memberWhen key Json.str value ≠ [] := by
    intro key value given
    obtain ⟨text, rfl⟩ := Option.isSome_iff_exists.mp given
    simp [Json.memberWhen]
  refine Json.dense_obj (fun vacant => ?_) ?_
  · simp only [List.append_eq_nil_iff] at vacant
    exact placed.elim (fun given => shown given vacant.1.1.1.1.1)
      fun given => shown given vacant.1.1.1.1.2
  · have listed : ∀ access : NatAccess, (Json.arr [access.encode]).Dense := fun access =>
      Json.dense_arr (by simp) (by simp [NatAccess.dense_encode])
    simp [listed]

/-- A neat affinity is written without an empty part. -/
theorem HostAffinity.Neat.dense_encode {affinity : HostAffinity} (neat : affinity.Neat) :
    affinity.encode.Dense :=
  Json.dense_obj (by simp) (by simp [neat.valued])

/-- A neat service account is written without an empty part. -/
theorem ServiceAccount.Neat.dense_encode {account : ServiceAccount} (neat : account.Neat) :
    account.encode.Dense :=
  Json.dense_obj (by simp) (by simp [neat.granted])

/-- Scheduling with neat affinities is written without an empty part. -/
theorem Scheduling.dense_encode {scheduling : Scheduling}
    (neat : ∀ affinity ∈ scheduling.nodeAffinities, affinity.Neat) :
    scheduling.encode.Dense := by
  have listed : scheduling.nodeAffinities ≠ [] →
      (Json.arr (scheduling.nodeAffinities.map HostAffinity.encode)).Dense := fun filled =>
    Json.dense_arr (by simpa using filled)
      (List.forall_mem_map.mpr fun affinity member => (neat affinity member).dense_encode)
  exact Json.dense_obj (by simp) (by simpa using listed)

/-- Metadata are written without an empty part, when there are any. -/
theorem Metadata.dense_encode {items : Metadata} (filled : items ≠ []) : (encode items).Dense := by
  have item : ∀ item : String × String, (encodeItem item).Dense := fun _ =>
    Json.dense_obj (by simp) (by simp)
  have listed : (Json.arr (items.map encodeItem)).Dense :=
    Json.dense_arr (by simpa using filled) (List.forall_mem_map.mpr fun kept _ => item kept)
  exact Json.dense_obj (by simp) (by simpa using listed)

/-- Tags are written without an empty part, when there are any. -/
theorem Tags.dense_encode {tags : List String} (filled : tags ≠ []) : (encode tags).Dense :=
  Json.dense_obj (by simp) (by simp [filled])

/-- Labels are written without an empty part, when there are any. -/
theorem Labels.dense_encode {labels : List (String × String)} (filled : labels ≠ []) :
    (encode labels).Dense :=
  Json.dense_obj (by simpa using filled)
    (List.forall_mem_map.mpr fun label _ => Json.dense_str label.2)

/-- What is written of an accelerator has no empty part. -/
theorem GuestAccelerator.dense_encode (accelerator : GuestAccelerator) :
    accelerator.encode.Dense :=
  Json.dense_obj (by simp) (by simp)

/-- What a rule lets in is written without an empty part. -/
theorem AllowEntry.dense_encode (entry : AllowEntry) : entry.encode.Dense :=
  Json.dense_obj (by simp) (by simp)

end Dense

namespace InsertRequest

/-- A neat request is written without an empty part. -/
theorem Neat.dense_encode {request : InsertRequest} (neat : request.Neat) :
    request.encode.Dense := by
  have disks : (Json.arr (request.disks.map AttachedDisk.encode)).Dense :=
    Json.dense_arr (by simpa using neat.booted)
      (List.forall_mem_map.mpr fun disk _ => disk.dense_encode)
  have interfaces : (Json.arr [request.interface.encode]).Dense :=
    Json.dense_arr (by simp) (by simpa using NetworkInterface.dense_encode neat.placed)
  have scheduling := Scheduling.dense_encode neat.affinities
  have account : ∀ account ∈ request.serviceAccount,
      (Json.arr [account.encode]).Dense := fun account given =>
    Json.dense_arr (by simp) (by simpa using (neat.account account given).dense_encode)
  have accelerators : request.accelerators ≠ [] →
      (Json.arr (request.accelerators.map GuestAccelerator.encode)).Dense := fun filled =>
    Json.dense_arr (by simpa using filled)
      (List.forall_mem_map.mpr fun accelerator _ => accelerator.dense_encode)
  have shielded : ∀ shielded, (Protection.encodeShielded shielded).Dense := fun _ =>
    Json.dense_obj (by simp) (by simp)
  have confidential : ∀ kind, (Protection.encodeConfidential kind).Dense := fun _ =>
    Json.dense_obj (by simp) (by simp)
  have flags : ∀ {key value flag}, value.Dense → DenseMembers (flagMember key value flag) := by
    intro key value flag dense
    cases flag <;> simp [flagMember, dense]
  have display : (Json.obj [("enableDisplay", .bool true)]).Dense :=
    Json.dense_obj (by simp) (by simp)
  refine Json.dense_obj (by simp) ?_
  simpa [disks, interfaces, scheduling, shielded, confidential, flags, display] using
    ⟨Metadata.dense_encode, Tags.dense_encode, Labels.dense_encode, account, accelerators⟩

/-- A member that is there when a flag is tells nothing of other keys. -/
@[simp]
theorem lookup_flagMember_of_ne {key other : String} (differs : other ≠ key) (value : Json)
    (flag : Bool) : (flagMember key value flag).lookup other = none := by
  cases flag with
  | false => rfl
  | true => exact Json.lookup_cons_of_ne differs value []

section Places

variable (request : InsertRequest)

/-- Where the tags of a machine stand. -/
def tagPlace : List Hop :=
  [.member "tags", .member "items", .items]

/-- Where names stand that a person wrote. -/
def namePlaces : List (List Hop) :=
  [tagPlace,
    [.member "labels", .keys],
    [.member "metadata", .member "items", .items, .member "key"],
    [.member "serviceAccounts", .items, .member "email"],
    [.member "serviceAccounts", .items, .member "scopes", .items],
    [.member "scheduling", .member "nodeAffinities", .items, .member "key"],
    [.member "scheduling", .member "nodeAffinities", .items, .member "values", .items],
    [.member "disks", .items, .member "deviceName"],
    [.member "disks", .items, .member "diskEncryptionKey", .member "kmsKeyName"]]

/-- In the place of tags stand those of the request. -/
theorem parts_tagPlace : request.encode.parts tagPlace = request.tags.map Json.str := by
  cases tags : request.tags <;> simp [tagPlace, encode, List.lookup_append, tags, Tags.encode]

/-- In the place of label keys stand those of the request. -/
theorem parts_labels : request.encode.parts [.member "labels", .keys] =
    request.labels.map fun label => .str label.1 := by
  cases labels : request.labels <;> simp [encode, List.lookup_append, labels, Labels.encode]

/-- In the place of metadata keys stand those of the request. -/
theorem parts_metadata :
    request.encode.parts [.member "metadata", .member "items", .items, .member "key"] =
      request.metadata.map fun item => .str item.1 := by
  cases metadata : request.metadata <;>
    simp [encode, List.lookup_append, metadata, Metadata.encode, Metadata.encodeItem,
      List.flatMap_map, ← List.map_eq_flatMap]

/-- What stands in a place of accounts stands in the account of the request. -/
theorem parts_accounts (rest : List Hop) :
    request.encode.parts (.member "serviceAccounts" :: .items :: rest) =
      request.serviceAccount.toList.flatMap fun account => account.encode.parts rest := by
  cases account : request.serviceAccount <;> simp [encode, List.lookup_append, account]

/-- What stands in a place of affinities stands in those of the request. -/
theorem parts_affinities (rest : List Hop) :
    request.encode.parts (.member "scheduling" :: .member "nodeAffinities" :: .items :: rest) =
      request.scheduling.nodeAffinities.flatMap fun affinity => affinity.encode.parts rest := by
  cases affinities : request.scheduling.nodeAffinities <;>
    simp [encode, List.lookup_append, affinities, Scheduling.encode, List.flatMap_map]

/-- What stands in a place of disks stands in those of the request. -/
theorem parts_disks (rest : List Hop) :
    request.encode.parts (.member "disks" :: .items :: rest) =
      request.disks.flatMap fun disk => disk.encode.parts rest := by
  simp [encode, List.lookup_append, List.flatMap_map]

/-- In every place of names a neat request has tidy texts. -/
theorem Neat.tidyTexts {request : InsertRequest} (neat : request.Neat) :
    ∀ place ∈ namePlaces, TidyTexts (request.encode.parts place) := by
  simp only [namePlaces, List.forall_mem_cons]
  refine ⟨?tags, ?labels, ?metadata, ?emails, ?scopes, ?keys, ?values, ?devices, ?encryption,
    nofun⟩
  case tags =>
    rw [parts_tagPlace]
    exact tidyTexts_map neat.tags
  case labels =>
    rw [parts_labels]
    exact tidyTexts_map neat.labels
  case metadata =>
    rw [parts_metadata]
    exact tidyTexts_map neat.metadata
  case emails =>
    rw [parts_accounts]
    refine tidyTexts_flatMap fun account given => ?_
    have named : account.encode.parts [.member "email"] = [.str account.email] := by
      simp [ServiceAccount.encode]
    rw [named]
    exact tidyTexts_singleton (neat.account account (Option.mem_toList.mp given)).email
  case scopes =>
    rw [parts_accounts]
    refine tidyTexts_flatMap fun account given => ?_
    have listed : account.encode.parts [.member "scopes", .items] =
        account.scopes.map Json.str := by
      simp [ServiceAccount.encode]
    rw [listed]
    exact tidyTexts_map (neat.account account (Option.mem_toList.mp given)).scopes
  case keys =>
    rw [parts_affinities]
    refine tidyTexts_flatMap fun affinity member => ?_
    have named : affinity.encode.parts [.member "key"] = [.str affinity.key] := by
      simp [HostAffinity.encode]
    rw [named]
    exact tidyTexts_singleton (neat.affinities affinity member).key
  case values =>
    rw [parts_affinities]
    refine tidyTexts_flatMap fun affinity member => ?_
    have listed : affinity.encode.parts [.member "values", .items] =
        affinity.values.map Json.str := by
      simp [HostAffinity.encode]
    rw [listed]
    exact tidyTexts_map (neat.affinities affinity member).values
  case devices =>
    rw [parts_disks]
    refine tidyTexts_flatMap fun disk member => ?_
    have named : disk.encode.parts [.member "deviceName"] =
        disk.deviceName.toList.map Json.str := by
      cases device : disk.deviceName <;> simp [(Disks.shows_encode disk).deviceName, device]
    rw [named]
    exact tidyTexts_map fun name given =>
      (neat.disks disk member).device name (Option.mem_toList.mp given)
  case encryption =>
    rw [parts_disks]
    refine tidyTexts_flatMap fun disk member => ?_
    have named : disk.encode.parts [.member "diskEncryptionKey", .member "kmsKeyName"] =
        disk.kmsKey.toList.map Json.str := by
      cases key : disk.kmsKey <;> simp [(Disks.shows_encode disk).key, key]
    rw [named]
    exact tidyTexts_map fun name given =>
      (neat.disks disk member).key name (Option.mem_toList.mp given)

end Places

/-- A neat request is clean. -/
theorem Neat.clean {request : InsertRequest} (neat : request.Neat) :
    Clean namePlaces tagPlace request.encode where
  dense := neat.dense_encode
  tidy := neat.tidyTexts
  nodup := by
    rw [parts_tagPlace]
    exact List.Nodup.map (fun _ _ same => Json.str.inj same) neat.distinct

end InsertRequest

namespace FirewallRule

/-- Where the tag of a rule stands. -/
def tagPlace : List Hop :=
  [.member "targetTags", .items]

/-- A rule lets something in from somewhere, for a tidy tag. -/
structure Neat (rule : FirewallRule) : Prop where
  opens : rule.allowed ≠ []
  ranged : rule.sourceRanges ≠ []
  tag : Tidy rule.targetTag

/-- A rule that could be read is neat. -/
theorem neat_of_ofText {text : Spec.RuleText} {rule : FirewallRule}
    (read : ofText text = .ok rule) : rule.Neat := by
  unfold ofText at read
  repeat' split at read
  all_goals cases read
  exact ⟨List.cons_ne_nil _ _, List.cons_ne_nil _ _,
    Text.tidy_of_filled? ‹Text.filled? text.targetTag = some _›⟩

/-- The payload of a neat rule is clean. -/
theorem Neat.clean {rule : FirewallRule} (neat : rule.Neat) (project network : String) :
    Clean [tagPlace] tagPlace (rule.payload project network).encode := by
  have shown : (rule.payload project network).encode.parts tagPlace = [.str rule.targetTag] := by
    simp [tagPlace, RulePayload.encode, payload]
  have entries : (Json.arr (rule.allowed.map AllowEntry.encode)).Dense :=
    Json.dense_arr (by simpa using neat.opens)
      (List.forall_mem_map.mpr fun entry _ => entry.dense_encode)
  constructor
  case dense =>
    exact Json.dense_obj (by simp) (by simpa [payload, entries] using neat.ranged)
  case tidy =>
    simpa [shown] using tidyTexts_singleton neat.tag
  case nodup =>
    rw [shown]
    exact List.nodup_singleton _

end FirewallRule

/-- Neither a request nor the payload of a rule has an empty part, and the names in them have no
blanks around them; no tag is sent twice. -/
theorem sent_clean :
    (∀ (spec : MachineSpec) (scope : Scope) (resolved : Resolved) (ruleTags : List String),
      Clean InsertRequest.namePlaces InsertRequest.tagPlace
        (InsertRequest.assemble spec scope resolved ruleTags).encode) ∧
    ∀ (text : Spec.RuleText) (rule : FirewallRule) (project network : String),
      FirewallRule.ofText text = .ok rule →
        Clean [FirewallRule.tagPlace] FirewallRule.tagPlace
          (rule.payload project network).encode :=
  ⟨fun spec scope resolved ruleTags =>
      (InsertRequest.assemble_neat spec scope resolved ruleTags).clean,
    fun _ _ project network read => (FirewallRule.neat_of_ofText read).clean project network⟩

/-- A machine with a name in every place, most of them with blanks around. -/
def furnishedSpec : MachineSpec where
  instanceName := "web"
  zone := "europe-west1-b"
  machine := { machineType := "e2-small" }
  bootDisk := {
    source := some (.customImage "base")
    deviceName := some " boot "
    kmsKey := some "\tkeys/main" }
  networking := { tags := ["http ", " ", " http"] }
  identity := { serviceAccount := some " runner@demo ", scopes := [" storage ", ""] }
  management := { metadata := [⟨" role ", "front"⟩, ⟨" ", "nothing"⟩] }
  advanced := {
    nodeAffinities := [{ key := " group ", values := [" a ", " "] }, { key := "none" }]
    labels := [⟨"team ", "web"⟩] }

/-- A rule with blanks around its tag. -/
def spacedRule : Spec.RuleText where
  name := " plain "
  allow := "tcp:80, icmp"
  sourceRanges := "0.0.0.0/0,"
  targetTag := "\u3000http "

/-- A request that has a name in every place is clean, and so is the payload of a rule whose text
has blanks in it. -/
theorem sent_clean_furnishedSpec :
    let scope : Scope := ⟨"demo", "europe-west1", "europe-west1-b"⟩
    let body := (InsertRequest.assemble furnishedSpec scope ⟨.image "base", {}⟩ ["ssh"]).encode
    (∀ place ∈ InsertRequest.namePlaces, (body.parts place).isEmpty = false) ∧
      Clean InsertRequest.namePlaces InsertRequest.tagPlace body ∧
      ∃ rule, FirewallRule.ofText spacedRule = .ok rule ∧
        Clean [FirewallRule.tagPlace] FirewallRule.tagPlace
          (rule.payload "demo" "default").encode := by
  have complete : ∃ rule, FirewallRule.ofText spacedRule = .ok rule :=
    ⟨⟨"plain", [⟨"tcp", ["80"]⟩, ⟨"icmp", []⟩], ["0.0.0.0/0"], "http", none, 1000, none⟩,
      by decide +kernel⟩
  obtain ⟨rule, read⟩ := complete
  exact ⟨by decide +kernel, sent_clean.1 furnishedSpec _ _ _, rule, read,
    sent_clean.2 spacedRule rule "demo" "default" read⟩

end VmLaunch
