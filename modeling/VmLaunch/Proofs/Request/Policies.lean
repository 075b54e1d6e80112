import VmLaunch.Proofs.Request.Tags
import VmLaunch.Proofs.Resolution
import VmLaunch.Request.Scheduling

/-!
# Resource policies of a request

Two places of a spec name policies, in several spellings. `url?` says which policy a text names,
and `Collects` that each policy named anywhere is listed once, in order of first mention. What was
collected names itself in every scope, so collecting it again changes nothing.
-/

namespace VmLaunch

open Text (Tidy)

namespace ResourcePolicies

/-- The texts that name policies, that of the maintenance policy first. -/
def texts (spec : MachineSpec) : List String :=
  spec.management.maintenancePolicy.toList ++ spec.advanced.resourcePolicies

/-- The policy that a text names: none when it is blank, the text itself when it is a path. -/
def url? (scope : Scope) (text : String) : Option String :=
  if Text.blank text then none
  else if '/' ∈ text.toList then some (Text.trim text)
  else some ("projects/" ++ scope.project ++ "/regions/" ++ scope.region ++ "/resourcePolicies/" ++
    Text.trim text)

/-- Where a policy is first mentioned. -/
def firstMention (scope : Scope) (texts : List String) (url : String) : Nat :=
  texts.findIdx fun text => url? scope text == some url

end ResourcePolicies

/-- The spec with a list of policies in place of all that it names. -/
def MachineSpec.withPolicies (spec : MachineSpec) (policies : List String) : MachineSpec :=
  { spec with
    management := { spec.management with maintenancePolicy := none }
    advanced := { spec.advanced with resourcePolicies := policies } }

namespace ResourcePolicies

/-- The list of policies that a spec asks for. -/
structure Collects (spec : MachineSpec) (scope : Scope) (urls : List String) : Prop where
  /-- Every policy that is named is listed, and no other. -/
  mem_iff : ∀ url, url ∈ urls ↔ ∃ text ∈ texts spec, url? scope text = some url
  once : urls.Nodup
  ordered : urls.Pairwise fun earlier later =>
    firstMention scope (texts spec) earlier < firstMention scope (texts spec) later
  maintenance_first : ∀ policy ∈ spec.management.maintenancePolicy, ¬ Text.blank policy →
    urls.head? = url? scope policy
  /-- A name and its path are two spellings of one policy, the path in every scope. -/
  alike : ∀ text url, url? scope text = some url → ∀ elsewhere, url? elsewhere url = some url
  /-- What was collected is collected again as it stands. -/
  again : ∀ (other : MachineSpec) (elsewhere : Scope),
    ofSpec (other.withPolicies urls) elsewhere = urls

section Mentions

variable {scope : Scope} {texts : List String} {url : String}

/-- A policy has the path of what is left of its text. -/
theorem url?_eq (scope : Scope) (text : String) :
    url? scope text = (Text.filled? text).map fun policy =>
      resourcePolicyPath policy scope.project scope.region := by
  unfold url? Text.filled?
  split
  case isTrue => rfl
  case isFalse =>
    split
    case isTrue separated =>
      have path := qualify_of_mem ((mem_trim_slash_iff text).mpr separated)
      exact congrArg some (path _).symm
    case isFalse plain =>
      have named := qualify_of_not_mem ((mem_trim_slash_iff text).not.mpr plain)
      have collection : "/resourcePolicies/" = "/" ++ ("resourcePolicies" ++ "/") := by decide
      rw [Option.map_some, resourcePolicyPath, named, Text.trim_trim, regionParent, collection]
      simp only [String.append_assoc]

/-- The policies of a request are those that texts of the spec stand for, each of them once. -/
theorem ofSpec_eq (spec : MachineSpec) (scope : Scope) :
    ofSpec spec scope = ((ResourcePolicies.texts spec).filterMap (url? scope)).eraseDups := by
  have named : url? scope = fun text => (Text.filled? text).map fun policy =>
      resourcePolicyPath policy scope.project scope.region :=
    funext (url?_eq scope)
  rw [named, ← List.map_filterMap]
  rfl

/-- A policy that is mentioned is so by one of the texts. -/
theorem firstMention_lt (mentioned : url ∈ texts.filterMap (url? scope)) :
    firstMention scope texts url < texts.length := by
  obtain ⟨text, member, named⟩ := List.mem_filterMap.mp mentioned
  exact List.findIdx_lt_length.mpr ⟨text, member, beq_iff_eq.mpr named⟩

/-- What follows does not change where a mentioned policy is mentioned first. -/
theorem firstMention_append (mentioned : url ∈ texts.filterMap (url? scope)) (rest : List String) :
    firstMention scope (texts ++ rest) url = firstMention scope texts url :=
  List.findIdx_append.trans (if_pos (firstMention_lt mentioned))

/-- A policy that was not mentioned before is first mentioned behind. -/
theorem le_firstMention_append (fresh : url ∉ texts.filterMap (url? scope)) (rest : List String) :
    texts.length ≤ firstMention scope (texts ++ rest) url := by
  have unmentioned : firstMention scope texts url = texts.length := by
    refine List.findIdx_eq_length.mpr fun text member => beq_eq_false_iff_ne.mpr fun named => ?_
    exact fresh (List.mem_filterMap.mpr ⟨text, member, named⟩)
  have behind : firstMention scope (texts ++ rest) url =
      firstMention scope rest url + texts.length :=
    List.findIdx_append.trans (if_neg (Nat.not_lt.mpr unmentioned.ge))
  rw [behind]
  exact Nat.le_add_left _ _

/-- The induction is on the texts from their end, so that first mentions stay where they are. -/
theorem ordered_eraseDups (scope : Scope) (texts : List String) :
    (texts.filterMap (url? scope)).eraseDups.Pairwise fun earlier later =>
      firstMention scope texts earlier < firstMention scope texts later := by
  induction texts using List.reverseRecOn with
  | nil => exact .nil
  | append_singleton texts text inductionHypothesis =>
    have kept : (texts.filterMap (url? scope)).eraseDups.Pairwise fun earlier later =>
        firstMention scope (texts ++ [text]) earlier <
          firstMention scope (texts ++ [text]) later := by
      refine inductionHypothesis.imp_of_mem fun first second before => ?_
      rw [firstMention_append (List.mem_eraseDups.mp first),
        firstMention_append (List.mem_eraseDups.mp second)]
      exact before
    rw [List.filterMap_append]
    cases named : url? scope text with
    | none =>
      rw [List.filterMap_cons_none named, List.filterMap_nil, List.append_nil]
      exact kept
    | some url =>
      rw [List.filterMap_cons_some named, List.filterMap_nil, Text.eraseDups_concat]
      split
      case isTrue => exact kept
      case isFalse fresh =>
        refine List.pairwise_append.mpr ⟨kept, List.pairwise_singleton _ _, ?_⟩
        intro earlier mentioned later single
        obtain rfl := List.mem_singleton.mp single
        have listed := List.mem_eraseDups.mp mentioned
        rw [firstMention_append listed]
        exact (firstMention_lt listed).trans_le (le_firstMention_append fresh [text])

end Mentions

/-- The path of a policy names that policy, in every scope. -/
theorem url?_of_url? {scope : Scope} {text url : String} (named : url? scope text = some url)
    (elsewhere : Scope) : url? elsewhere url = some url := by
  rw [url?_eq] at named
  obtain ⟨policy, filled, rfl⟩ := Option.map_eq_some_iff.mp named
  have separated : '/' ∈ (resourcePolicyPath policy scope.project scope.region).toList :=
    slash_mem_qualify _ policy
  have visible : Text.isBlank 'p' = false := by decide
  have tidy : Tidy (resourcePolicyPath policy scope.project scope.region) :=
    tidy_qualify (by simpa [regionParent] using visible) (Text.tidy_of_filled? filled)
  unfold url?
  rw [if_neg (by simpa [Text.blank, tidy.trim_eq] using tidy.filled), if_pos separated,
    tidy.trim_eq]

/-- The maintenance policy comes first. -/
theorem head?_ofSpec {spec : MachineSpec} {policy : String}
    (asked : spec.management.maintenancePolicy = some policy) (filled : ¬ Text.blank policy)
    (scope : Scope) : (ofSpec spec scope).head? = url? scope policy := by
  have kept : Text.filled? policy = some (Text.trim policy) := if_neg filled
  have named := url?_eq scope policy
  rw [kept, Option.map_some] at named
  rw [ofSpec_eq, texts, asked, Option.toList_some, List.singleton_append,
    List.filterMap_cons_some named, List.eraseDups_cons, List.head?_cons, named]

/-- Collected policies are collected again as they stand, in every scope. -/
theorem ofSpec_withPolicies {spec : MachineSpec} {scope : Scope} (other : MachineSpec)
    (elsewhere : Scope) :
    ofSpec (other.withPolicies (ofSpec spec scope)) elsewhere = ofSpec spec scope := by
  have told : texts (other.withPolicies (ofSpec spec scope)) = ofSpec spec scope := rfl
  have same : ∀ url ∈ ofSpec spec scope, url? elsewhere url = some url := by
    intro url member
    rw [ofSpec_eq, List.mem_eraseDups] at member
    obtain ⟨text, -, named⟩ := List.mem_filterMap.mp member
    exact url?_of_url? named elsewhere
  have once : (ofSpec spec scope).Nodup := by
    rw [ofSpec_eq]
    exact Text.nodup_eraseDups _
  rw [ofSpec_eq, told, List.filterMap_congr same, List.filterMap_some]
  exact Text.eraseDups_of_nodup once

/-- A spec gets every policy that it names, once and in order, however it spells them. -/
theorem ofSpec_collects (spec : MachineSpec) (scope : Scope) :
    Collects spec scope (ofSpec spec scope) where
  mem_iff url := by
    rw [ofSpec_eq, List.mem_eraseDups, List.mem_filterMap]
  once := by
    rw [ofSpec_eq]
    exact Text.nodup_eraseDups _
  ordered := by
    rw [ofSpec_eq]
    exact ordered_eraseDups scope (texts spec)
  maintenance_first _ asked filled := head?_ofSpec asked filled scope
  alike _ _ named elsewhere := url?_of_url? named elsewhere
  again := ofSpec_withPolicies

/-- Two spellings of the maintenance policy give one path. -/
example : ofSpec {
    management := { maintenancePolicy := some " weekly" }
    advanced := { resourcePolicies := ["spread", "projects/p/regions/r/resourcePolicies/weekly"] } }
    ⟨"p", "r", "z"⟩ =
    ["projects/p/regions/r/resourcePolicies/weekly",
      "projects/p/regions/r/resourcePolicies/spread"] := by decide +kernel

end ResourcePolicies

end VmLaunch
