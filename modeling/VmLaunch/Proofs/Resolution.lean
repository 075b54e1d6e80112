import VmLaunch.Proofs.Reference
import VmLaunch.Spec.Check

/-!
# Resolution of references

Resources of ten kinds are referred to by a short name or by a path. `Resolves` says what becomes
of the text of a reference, for every kind in the same way: a path is kept, a name is put below
the parent of its kind, and what was resolved once is a path for every other kind and scope. Only
the type of a disk without a project or a zone is left as it stands.
-/

namespace VmLaunch

/-- The kinds of resources that are referred to by name or by path. -/
inductive ResourceKind where
  | image
  | imageFamily
  | snapshot
  | disk
  | diskType
  | network
  | subnetwork
  | resourcePolicy
  | machineType
  | acceleratorType
  deriving DecidableEq

namespace ResourceKind

/-- The text of a reference to a resource of a kind, resolved in a scope. -/
def resolve (kind : ResourceKind) (scope : Scope) (text : String) : String :=
  match kind with
  | .image => imagePath text scope.project
  | .imageFamily => imageFamilyPath text scope.project
  | .snapshot => snapshotPath text scope.project
  | .disk => diskPath text scope.project scope.zone
  | .diskType => diskTypePath text scope.project scope.zone
  | .network => networkPath text scope.project
  | .subnetwork => subnetworkPath text scope.project scope.region
  | .resourcePolicy => resourcePolicyPath text scope.project scope.region
  | .machineType => machineTypePath text scope.zone
  | .acceleratorType => acceleratorTypePath text scope.project scope.zone

/-- Whether a scope has a place for the names of a kind. Every scope does, but for disk types,
which need a project and a zone. -/
def Placed (kind : ResourceKind) (scope : Scope) : Prop :=
  kind = .diskType → scope.project ≠ "" ∧ scope.zone ≠ ""

variable {kind : ResourceKind} {scope : Scope} {text : String}

/-- Where there is a place for names, it does not depend on the name. -/
theorem exists_parent (placed : kind.Placed scope) :
    ∃ parent, ∀ text, kind.resolve scope text = qualify parent text := by
  cases kind with
  | diskType =>
    obtain ⟨project, zone⟩ := placed rfl
    refine ⟨zoneParent scope.project scope.zone "diskTypes", fun text => ?_⟩
    exact if_neg (by simp [project, zone])
  | _ => exact ⟨_, fun _ => rfl⟩

/-- A kind that has no place in a scope leaves texts as they are. -/
theorem resolve_of_not_placed (unplaced : ¬ kind.Placed scope) (text : String) :
    kind.resolve scope text = text := by
  obtain ⟨rfl, missing⟩ := Classical.not_imp.mp unplaced
  refine if_pos ?_
  simpa [or_iff_not_imp_left] using missing

/-- A path is kept as it stands, whatever it leads to. -/
theorem resolve_of_mem (separated : '/' ∈ text.toList) (kind : ResourceKind) (scope : Scope) :
    kind.resolve scope text = text := by
  by_cases placed : kind.Placed scope
  · obtain ⟨parent, resolved⟩ := exists_parent placed
    rw [resolved, qualify_of_mem separated]
  · exact resolve_of_not_placed placed text

/-- A kind that has a place gives names with a separator. -/
theorem slash_mem_resolve (placed : kind.Placed scope) (text : String) :
    '/' ∈ (kind.resolve scope text).toList := by
  obtain ⟨parent, resolved⟩ := exists_parent placed
  rw [resolved]
  exact slash_mem_qualify parent text

/-- The short name of what a plain name was resolved to is that name. -/
theorem shortName_resolve (placed : kind.Placed scope) (plain : '/' ∉ text.toList) :
    shortName (kind.resolve scope text) = Text.trim text := by
  obtain ⟨parent, resolved⟩ := exists_parent placed
  rw [resolved, shortName_qualify plain]

/-- What becomes of the text of a reference in a scope. -/
structure Resolves (kind : ResourceKind) (scope : Scope) (text : String) : Prop where
  /-- A path is kept as it stands, with the blanks around it. -/
  path : '/' ∈ text.toList → kind.resolve scope text = text
  /-- A name becomes a path that ends in it. -/
  name : '/' ∉ text.toList → kind.Placed scope →
    '/' ∈ (kind.resolve scope text).toList ∧
      shortName (kind.resolve scope text) = Text.trim text
  /-- What was resolved is kept, also as a reference of another kind in another scope. -/
  kept : kind.Placed scope → ∀ (other : ResourceKind) (elsewhere : Scope),
    other.resolve elsewhere (kind.resolve scope text) = kind.resolve scope text
  /-- Without a place for its name, a reference is left as it stands. -/
  unplaced : ¬ kind.Placed scope → kind.resolve scope text = text

/-- References of all kinds are resolved alike, in every scope and whatever their text. -/
theorem resolves (kind : ResourceKind) (scope : Scope) (text : String) :
    kind.Resolves scope text where
  path separated := resolve_of_mem separated kind scope
  name plain placed := ⟨slash_mem_resolve placed text, shortName_resolve placed plain⟩
  kept placed other elsewhere := resolve_of_mem (slash_mem_resolve placed text) other elsewhere
  unplaced missing := resolve_of_not_placed missing text

/-- A name that is blank within is kept whole, the blanks around it are not. -/
example : resolve .snapshot ⟨"p", "r", "z"⟩ "\u00a0my snap\t" =
    "projects/p/global/snapshots/my snap" := by decide +kernel

end ResourceKind

end VmLaunch
