import Mathlib.Data.List.Induction
import VmLaunch.Proofs.Request.Tags
import VmLaunch.Proofs.Text.Blank
import VmLaunch.Proofs.Text.Occurrence

/-!
# What an allow text opens

Every entry of an allow text asks for a protocol and, behind its first colon, for a port. An entry
without one of them where it is announced refuses the whole text. Otherwise `Opens` says what is
read: each protocol once, open on all ports only where an entry asks for that, and else on the
ports that its entries name.
-/

namespace VmLaunch

namespace Firewall

/-- What an entry says before its first colon. -/
def protocolPart (entry : String) : String :=
  Text.trim (String.ofList (entry.toList.takeWhile (· != ':')))

/-- What an entry says behind its first colon, when it has one. -/
def portPart? (entry : String) : Option String :=
  if ':' ∈ entry.toList then
    some (Text.trim (String.ofList (entry.toList.dropWhile (· != ':')).tail))
  else none

/-- The protocol that an entry asks for. -/
def protocolOf (entry : String) : String :=
  Text.lower (protocolPart entry)

/-- Whether an entry has no protocol, or a colon without a port behind it. -/
def Incomplete (entry : String) : Prop :=
  protocolPart entry = "" ∨ portPart? entry = some ""

/-- The entries that ask for a protocol. -/
def asking (entries : List String) (protocol : String) : List String :=
  entries.filter fun entry => protocolOf entry == protocol

/-- What is wrong with an entry. -/
def flaw? (entry : String) : Option RuleError :=
  if protocolPart entry = "" then some (.noProtocol entry)
  else if portPart? entry = some "" then some (.emptyPort entry)
  else none

/-- The groups that the entries of a text make: every protocol once, in order of first
appearance. -/
structure Opens (entries : List String) (allowed : List AllowEntry) : Prop where
  protocols : allowed.map AllowEntry.protocol = (entries.map protocolOf).eraseDups
  unrestricted : ∀ group ∈ allowed, group.ports = [] ↔
    ∃ entry ∈ entries, protocolOf entry = group.protocol ∧ portPart? entry = none
  listed : ∀ group ∈ allowed, group.ports ≠ [] →
    group.ports = ((asking entries group.protocol).filterMap portPart?).eraseDups

section Entries

/-- An entry without a flaw is complete. -/
theorem flaw?_eq_none_iff {entry : String} : flaw? entry = none ↔ ¬ Incomplete entry := by
  unfold flaw? Incomplete
  by_cases protocol : protocolPart entry = ""
  · simp [protocol]
  · by_cases port : portPart? entry = some "" <;> simp [protocol, port]

/-- An entry without blanks around it is read as its two parts say. -/
theorem readEntry_eq {entry : String} (tidy : Text.Tidy entry) :
    readEntry entry =
      match flaw? entry with
      | some cause => .error cause
      | none => .ok (protocolOf entry, portPart? entry) := by
  have read : readEntry entry =
      if protocolPart entry = "" then .error (.noProtocol entry)
      else if portPart? entry = some "" then .error (.emptyPort entry)
      else .ok (protocolOf entry, portPart? entry) := by
    unfold readEntry Text.cut? protocolOf protocolPart portPart?
    rw [Text.cutChars?_eq]
    by_cases colon : ':' ∈ entry.toList
    · simp only [if_pos colon, Option.map_some, beq_iff_eq]
    · have whole : entry.toList.takeWhile (· != ':') = entry.toList :=
        List.takeWhile_eq_self_iff.mpr fun c member => by
          simpa using ne_of_mem_of_not_mem member colon
      rw [if_neg colon, if_neg colon, whole, String.ofList_toList, tidy.trim_eq]
      simp only [Option.map_none, beq_iff_eq]
  rw [read]
  unfold flaw?
  by_cases protocol : protocolPart entry = ""
  · simp [protocol]
  · by_cases port : portPart? entry = some "" <;> simp [protocol, port]

/-- Entries are added one by one, unless one of them is flawed; the first of these is blamed. -/
theorem addEntries_eq {entries : List String} (tidy : ∀ entry ∈ entries, Text.Tidy entry)
    (groups : List (String × Ports)) :
    addEntries groups entries =
      match entries.findSome? flaw? with
      | some cause => .error cause
      | none => .ok (entries.foldl
          (fun groups entry => addEntry (protocolOf entry) (portPart? entry) groups) groups) := by
  induction entries generalizing groups with
  | nil => rfl
  | cons entry rest inductionHypothesis =>
    obtain ⟨first, others⟩ := List.forall_mem_cons.mp tidy
    unfold addEntries
    rw [readEntry_eq first, List.findSome?_cons]
    cases flaw? entry with
    | some cause => rfl
    | none => exact inductionHypothesis others _

end Entries

section Groups

/-- The ports of a protocol that entries ask for. -/
def portsFor (entries : List String) (protocol : String) : Ports :=
  if none ∈ (asking entries protocol).map portPart? then .all
  else .only ((asking entries protocol).filterMap portPart?).eraseDups

/-- The groups of several entries. -/
def gathered (entries : List String) : List (String × Ports) :=
  (entries.map protocolOf).eraseDups.map fun protocol => (protocol, portsFor entries protocol)

variable {entries : List String} {entry protocol : String}

/-- The entries that ask for a protocol are those listed that have it. -/
theorem mem_asking_iff : entry ∈ asking entries protocol ↔
    entry ∈ entries ∧ protocolOf entry = protocol := by
  simp [asking]

/-- One more entry asks for its own protocol behind the others. -/
theorem asking_concat_self :
    asking (entries ++ [entry]) (protocolOf entry) =
      asking entries (protocolOf entry) ++ [entry] := by
  simp [asking]

/-- A protocol that no entry has is asked for with no ports. -/
theorem portsFor_of_unasked (unasked : protocol ∉ entries.map protocolOf) :
    portsFor entries protocol = .only [] := by
  have none_asks : asking entries protocol = [] := by
    refine List.eq_nil_iff_forall_not_mem.mpr fun entry member => unasked ?_
    obtain ⟨among, same⟩ := mem_asking_iff.mp member
    exact List.mem_map.mpr ⟨entry, among, same⟩
  unfold portsFor
  rw [none_asks]
  rfl

/-- One more entry of another protocol changes no ports. -/
theorem portsFor_concat_of_ne (other : protocolOf entry ≠ protocol) :
    portsFor (entries ++ [entry]) protocol = portsFor entries protocol := by
  have same : asking (entries ++ [entry]) protocol = asking entries protocol := by
    simp [asking, other]
  unfold portsFor
  rw [same]

/-- One more entry of a protocol adds its port, or opens all of them for good. -/
theorem portsFor_concat_self :
    portsFor (entries ++ [entry]) (protocolOf entry) =
      (portsFor entries (protocolOf entry)).add (portPart? entry) := by
  unfold portsFor
  rw [asking_concat_self]
  generalize asking entries (protocolOf entry) = earlier
  by_cases opened : none ∈ earlier.map portPart?
  · have still : none ∈ (earlier ++ [entry]).map portPart? := by
      rw [List.map_append]
      exact List.mem_append_left _ opened
    rw [if_pos opened, if_pos still]
    rfl
  · rw [if_neg opened]
    cases port : portPart? entry with
    | none => simp [port, Ports.add]
    | some number =>
      have closed : none ∉ (earlier ++ [entry]).map portPart? := by
        simpa [port] using opened
      rw [if_neg closed, List.filterMap_append, List.filterMap_cons_some port,
        List.filterMap_nil, Text.eraseDups_concat]
      simp only [Ports.add, List.contains_iff_mem, List.mem_eraseDups]

/-- An entry is added to the group of its protocol, or makes a new one at the end. -/
theorem addEntry_map {protocols : List String} (distinct : protocols.Nodup)
    (ports : String → Ports) (port : Option String) :
    addEntry protocol port (protocols.map fun other => (other, ports other)) =
      if protocol ∈ protocols then
        protocols.map fun other =>
          (other, if protocol = other then (ports other).add port else ports other)
      else
        (protocols.map fun other => (other, ports other)) ++
          [(protocol, (Ports.only []).add port)] := by
  induction protocols with
  | nil => rfl
  | cons first rest inductionHypothesis =>
    obtain ⟨fresh, distinctRest⟩ := List.nodup_cons.mp distinct
    rw [List.map_cons, addEntry]
    by_cases same : first = protocol
    · -- The protocol stands nowhere else, so all later groups stay as they are.
      subst same
      have apart : ∀ other ∈ rest, first ≠ other := fun other member => by
        rintro rfl
        exact fresh member
      rw [if_pos rfl, if_pos List.mem_cons_self, List.map_cons, if_pos rfl]
      congr 1
      exact List.map_congr_left fun other member => by rw [if_neg (apart other member)]
    · have later : protocol ∈ first :: rest ↔ protocol ∈ rest := by simp [Ne.symm same]
      rw [if_neg same, inductionHypothesis distinctRest]
      by_cases known : protocol ∈ rest
      · rw [if_pos known, if_pos (later.mpr known), List.map_cons, if_neg (Ne.symm same)]
      · rw [if_neg known, if_neg (mt later.mp known)]
        rfl

/-- One more entry is added to the groups of those before it. -/
theorem gathered_concat (entries : List String) (entry : String) :
    gathered (entries ++ [entry]) =
      addEntry (protocolOf entry) (portPart? entry) (gathered entries) := by
  unfold gathered
  rw [addEntry_map (Text.nodup_eraseDups _), List.map_append, List.map_singleton,
    Text.eraseDups_concat]
  simp only [List.mem_eraseDups]
  have each : ∀ protocol, portsFor (entries ++ [entry]) protocol =
      if protocolOf entry = protocol then (portsFor entries protocol).add (portPart? entry)
      else portsFor entries protocol := by
    intro protocol
    by_cases same : protocolOf entry = protocol
    · subst same
      rw [if_pos rfl, portsFor_concat_self]
    · rw [if_neg same, portsFor_concat_of_ne same]
  by_cases known : protocolOf entry ∈ entries.map protocolOf
  · rw [if_pos known, if_pos known]
    exact List.map_congr_left fun protocol _ => by rw [each]
  · rw [if_neg known, if_neg known, List.map_append, List.map_singleton, portsFor_concat_self,
      portsFor_of_unasked known]
    congr 1
    refine List.map_congr_left fun protocol member => ?_
    have apart : protocolOf entry ≠ protocol := by
      rintro rfl
      exact known (List.mem_eraseDups.mp member)
    rw [portsFor_concat_of_ne apart]

/-- Entries that are added one by one come to the gathered groups. -/
theorem foldl_addEntry (entries : List String) :
    entries.foldl (fun groups entry => addEntry (protocolOf entry) (portPart? entry) groups) [] =
      gathered entries := by
  induction entries using List.reverseRecOn with
  | nil => rfl
  | append_singleton entries entry inductionHypothesis =>
    rw [List.foldl_append, inductionHypothesis, gathered_concat]
    rfl

/-- A protocol that is asked for is open on all ports only if one of its entries names none. -/
theorem toList_portsFor_eq_nil_iff (asked : protocol ∈ entries.map protocolOf) :
    (portsFor entries protocol).toList = [] ↔
      ∃ entry ∈ entries, protocolOf entry = protocol ∧ portPart? entry = none := by
  have opened : none ∈ (asking entries protocol).map portPart? ↔
      ∃ entry ∈ entries, protocolOf entry = protocol ∧ portPart? entry = none := by
    simp only [List.mem_map, mem_asking_iff, and_assoc]
  rw [← opened]
  unfold portsFor
  by_cases all : none ∈ (asking entries protocol).map portPart?
  · simp [all, Ports.toList]
  · obtain ⟨entry, member, same⟩ := List.mem_map.mp asked
    have asks : entry ∈ asking entries protocol := mem_asking_iff.mpr ⟨member, same⟩
    obtain ⟨port, named⟩ : ∃ port, portPart? entry = some port :=
      Option.ne_none_iff_exists'.mp fun missing => all (List.mem_map.mpr ⟨entry, asks, missing⟩)
    have listed : port ∈ ((asking entries protocol).filterMap portPart?).eraseDups :=
      List.mem_eraseDups.mpr (List.mem_filterMap.mpr ⟨entry, asks, named⟩)
    simpa [all, Ports.toList] using List.ne_nil_of_mem listed

/-- The groups of entries are what the entries open. -/
theorem opens_gathered (entries : List String) :
    Opens entries ((gathered entries).map fun group => ⟨group.1, group.2.toList⟩) := by
  have each : ∀ group ∈ (gathered entries).map fun group => AllowEntry.mk group.1 group.2.toList,
      group.protocol ∈ entries.map protocolOf ∧
        group.ports = (portsFor entries group.protocol).toList := by
    intro group member
    obtain ⟨pair, among, rfl⟩ := List.mem_map.mp member
    obtain ⟨protocol, asked, rfl⟩ := List.mem_map.mp among
    exact ⟨List.mem_eraseDups.mp asked, rfl⟩
  refine ⟨?_, fun group member => ?_, fun group member restricted => ?_⟩
  · unfold gathered
    rw [List.map_map, List.map_map]
    exact List.map_id _
  · obtain ⟨asked, ports⟩ := each group member
    rw [ports]
    exact toList_portsFor_eq_nil_iff asked
  · obtain ⟨-, ports⟩ := each group member
    rw [ports] at restricted ⊢
    unfold portsFor at restricted ⊢
    by_cases all : none ∈ (asking entries group.protocol).map portPart?
    · rw [if_pos all] at restricted
      exact absurd rfl restricted
    · rw [if_neg all]
      rfl

end Groups

/-- What is read from an allow text: the fault of its first flawed entry, or else its groups. -/
theorem parseAllow_eq (text : String) :
    parseAllow text =
      match (commaList text).findSome? flaw? with
      | some cause => .error cause
      | none => .ok ((gathered (commaList text)).map fun group => ⟨group.1, group.2.toList⟩) := by
  have tidy : ∀ entry ∈ commaList text, Text.Tidy entry :=
    fun _ member => Text.tidy_of_mem_filledAll member
  unfold parseAllow
  rw [addEntries_eq tidy, foldl_addEntry]
  cases (commaList text).findSome? flaw? <;> rfl

/-- An allow text is refused exactly when an entry lacks its protocol or a port that it announces,
and the first such entry is blamed. Otherwise its entries are grouped by protocol, and a protocol
is open on all ports only where one of its entries asks for that. -/
theorem parseAllow_grammar (text : String) :
    (∀ cause, parseAllow text = .error cause ↔ (commaList text).findSome? flaw? = some cause) ∧
      ((∃ cause, parseAllow text = .error cause) ↔
        ∃ entry ∈ commaList text, Incomplete entry) ∧
      ∀ allowed, parseAllow text = .ok allowed → Opens (commaList text) allowed := by
  have blamed : ∀ cause,
      parseAllow text = .error cause ↔ (commaList text).findSome? flaw? = some cause := by
    intro cause
    rw [parseAllow_eq]
    cases (commaList text).findSome? flaw? <;> simp
  refine ⟨blamed, ?_, fun allowed read => ?_⟩
  · simp only [blamed, ← Option.isSome_iff_exists, List.findSome?_isSome_iff]
    have flawed : ∀ entry, (flaw? entry).isSome ↔ Incomplete entry := fun entry => by
      rw [Option.isSome_iff_ne_none, ne_eq, flaw?_eq_none_iff, not_not]
    simp only [flawed]
  · rw [parseAllow_eq] at read
    cases found : (commaList text).findSome? flaw? with
    | some cause =>
      rw [found] at read
      cases read
    | none =>
      rw [found] at read
      cases read
      exact opens_gathered (commaList text)

example : parseAllow "tcp:22, udp:53,tcp,TCP:80" = .ok [⟨"tcp", []⟩, ⟨"udp", ["53"]⟩] := by
  decide +kernel

end Firewall

end VmLaunch
