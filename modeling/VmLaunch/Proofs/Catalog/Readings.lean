import VmLaunch.Proofs.Course
import VmLaunch.Proofs.Catalog.Topic

/-!
# Lists that read topics

The lists of a catalog are written in several ways, and each reads its topic.
-/

namespace VmLaunch

namespace Work

variable {α β : Type}

/-- Changing no item changes nothing. -/
theorem map_id (work : Work World (List α)) :
    (do
      let items ← work
      return items.map id) = work := by
  funext world
  rcases run : work world with ⟨_ | _ | _, middle⟩
  · rw [bind_of_ok run, List.map_id]
    rfl
  · exact bind_of_error run
  · exact bind_of_unfinished run

/-- A value may be changed before or after the work becomes work on a session. -/
theorem inSession_map (work : Work World α) (f : α → β) :
    (do
      let value ← work
      return f value : Work World β).inSession = (do
      let value ← work.inSession
      return f value) := by
  funext session
  rw [map_apply, inSession, map_apply]
  rfl

end Work

namespace Catalog

variable (env : Environment) (project location : String)

/-- Machine types are listed by reading their topic. -/
theorem listMachineTypes_eq_read :
    listMachineTypes env project location =
      (Topic.part .machineTypes project location).read env :=
  congrArg (Shelf.machineTypes.through _) (Work.inSession_map _ _).symm

/-- A list that is stored as it is walked is read from its topic. -/
private theorem plain_eq_read {α : Type} (shelf : Shelf α) (read : Json → Option α)
    (key path : String) :
    plain env shelf read key path =
      shelf.through key (Work.inSession do
        let items ← Page.fetchAll env read path
        return items.map id) := by
  rw [plain, Work.map_id]

/-- Disk types are listed by reading their topic. -/
theorem listDiskTypes_eq_read :
    listDiskTypes env project location = (Topic.part .diskTypes project location).read env :=
  plain_eq_read env _ _ _ _

/-- Disks are listed by reading their topic. -/
theorem listDisks_eq_read :
    listDisks env project location = (Topic.part .disks project location).read env :=
  plain_eq_read env _ _ _ _

/-- Resource policies are listed by reading their topic. -/
theorem listResourcePolicies_eq_read :
    listResourcePolicies env project location =
      (Topic.part .resourcePolicies project location).read env :=
  plain_eq_read env _ _ _ _

/-- Subnetworks are listed by reading their topic. -/
theorem listSubnetworks_eq_read :
    listSubnetworks env project location = (Topic.part .subnetworks project location).read env :=
  plain_eq_read env _ _ _ _

/-- Addresses are listed by reading their topic. -/
theorem listAddresses_eq_read :
    listAddresses env project location = (Topic.part .addresses project location).read env :=
  plain_eq_read env _ _ _ _

end Catalog

end VmLaunch
