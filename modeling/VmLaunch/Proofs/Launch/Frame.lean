import VmLaunch.Proofs.Launch.Forget

/-!
# What a launch has to do with the catalog

A run and a dry run look everything up anew, so the lists that the catalog has stored have no part
in them. `Overlooks` says so of a piece of work by comparing its runs from one world: they differ
in their catalogs alone, and each catalog keeps all but at most the firewall rules of one project.
-/

namespace VmLaunch

namespace Catalog

/-- A catalog after work that dropped the stored firewall rules of a project, or did not. -/
def afterDrop (dropped : Bool) (project : String) (catalog : Catalog) : Catalog :=
  if dropped then catalog.withoutRules project else catalog

/-- To drop rules twice is to drop them once. -/
@[simp]
theorem withoutRules_withoutRules (catalog : Catalog) (project : String) :
    (catalog.withoutRules project).withoutRules project = catalog.withoutRules project := by
  simp [withoutRules, Shelf.firewalls, Cache.erase, List.filter_filter]

/-- Rules that were dropped twice were dropped. -/
theorem afterDrop_afterDrop (first second : Bool) (project : String) (catalog : Catalog) :
    (catalog.afterDrop first project).afterDrop second project =
      catalog.afterDrop (first || second) project := by
  cases first <;> cases second <;> simp [afterDrop]

/-- Dropping the rules of a project leaves every other entry of every cache. -/
theorem stored?_withoutRules {drawer : Drawer} {key project : String}
    (other : drawer = .firewalls → key ≠ firewallsKey project) (catalog : Catalog) :
    (drawer.shelf.get (catalog.withoutRules project)).stored? key =
      (drawer.shelf.get catalog).stored? key := by
  by_cases rules : drawer = .firewalls
  · subst rules
    exact Cache.stored?_erase_of_ne (other rfl)
  · have spared : drawer.shelf.get (catalog.withoutRules project) = drawer.shelf.get catalog :=
      Drawer.get_put_of_ne rules _
    rw [spared]

end Catalog

open Catalog

/-- Work in which the catalog has no part: from one world it ends in one way and in one world,
whatever the catalog, of which it drops at most the firewall rules of a project. -/
def Overlooks {α : Type} (project : String) (work : Work Session α) : Prop :=
  ∀ world, ∃ outcome later dropped, ∀ catalog,
    work ⟨world, catalog⟩ = (outcome, ⟨later, catalog.afterDrop dropped project⟩)

namespace Overlooks

variable {α β : Type} {project : String}

/-- Work on the world does not reach the catalog. -/
theorem inSession (project : String) (work : Work World α) : Overlooks project work.inSession := by
  intro world
  rcases run : work world with ⟨outcome, later⟩
  exact ⟨outcome, later, false, fun catalog => Work.inSession_of_eq run⟩

/-- Pieces of work overlook the catalog one after another. The second needs to do so only for a
value that the first can end with. -/
theorem bind {first : Work Session α} {next : α → Work Session β} (head : Overlooks project first)
    (tail : ∀ value, (∃ before after, first before = (.ok value, after)) →
      Overlooks project (next value)) : Overlooks project (first >>= next) := by
  intro world
  obtain ⟨outcome, middle, dropped, ends⟩ := head world
  cases outcome with
  | ok value =>
    have ended := ends (.fresh Catalog.defaultTtl)
    obtain ⟨final, later, more, goesOn⟩ := tail value ⟨_, _, ended⟩ middle
    refine ⟨final, later, dropped || more, fun catalog => ?_⟩
    rw [Work.bind_of_ok (ends catalog), goesOn, afterDrop_afterDrop]
  | error cause =>
    exact ⟨.error cause, middle, dropped, fun catalog => Work.bind_of_error (ends catalog)⟩
  | unfinished =>
    exact ⟨.unfinished, middle, dropped, fun catalog => Work.bind_of_unfinished (ends catalog)⟩

section TwoRuns

variable {work : Work Session α} (overlooks : Overlooks project work) (world : World)
  (catalog other : Catalog)

include overlooks

/-- Runs from one world end alike. -/
theorem outcome_eq : (work ⟨world, catalog⟩).1 = (work ⟨world, other⟩).1 := by
  obtain ⟨outcome, later, dropped, ends⟩ := overlooks world
  rw [ends catalog, ends other]

/-- Runs from one world lead to one world. -/
theorem world_eq : (work ⟨world, catalog⟩).2.world = (work ⟨world, other⟩).2.world := by
  obtain ⟨outcome, later, dropped, ends⟩ := overlooks world
  rw [ends catalog, ends other]

/-- Runs from one world make the same exchanges. -/
theorem made_eq : work.made ⟨world, catalog⟩ = work.made ⟨world, other⟩ := by
  have same := congrArg World.history (overlooks.world_eq world catalog other)
  exact congrArg (List.drop world.history.length) same

/-- A run leaves the entries of all caches but those of the firewall rules of the project. -/
theorem stored?_eq {drawer : Drawer} {key : String}
    (apart : drawer = .firewalls → key ≠ firewallsKey project) :
    (drawer.shelf.get (work ⟨world, catalog⟩).2.catalog).stored? key =
      (drawer.shelf.get catalog).stored? key := by
  obtain ⟨outcome, later, dropped, ends⟩ := overlooks world
  rw [ends catalog]
  cases dropped with
  | false => rfl
  | true => exact stored?_withoutRules apart catalog

end TwoRuns

end Overlooks

namespace Launch

variable {env : Environment} {spec : MachineSpec}

/-- The catalog has no part in dropping rules. -/
theorem forgetRules_overlooks (project : String) (rules : List FirewallRule) :
    Overlooks project (forgetRules project rules) := by
  intro world
  refine ⟨.ok (), world, !rules.isEmpty, fun catalog => ?_⟩
  rw [forgetRules_apply]
  cases rules <;> rfl

/-- The lookups of a run stay in the scope of its spec. -/
theorem scope_of_prepare {world later : World} {run : Prepared}
    (prepared : prepare env spec world = (.ok run, later)) :
    run.scope = spec.scope env.project := by
  cases valid : spec.check with
  | error cause =>
    rw [prepare_of_invalid valid] at prepared
    cases prepared
  | ok value =>
    obtain ⟨-, rules, complete⟩ := rules_of_check valid
    obtain ⟨steps, -, way⟩ := prepare_follows env valid complete world
    rw [prepared] at way
    exact (prepareCourse_value way).1

/-- The catalog has no part in a run that is prepared. -/
theorem launch_overlooks (env : Environment) (polling : Polling) (signal : Signal)
    (spec : MachineSpec) (run : Prepared) :
    Overlooks run.scope.project (run.launch env polling signal spec) := by
  unfold Prepared.launch
  apply (Overlooks.inSession _ _).bind
  intro tags _
  apply (forgetRules_overlooks _ _).bind
  intro _ _
  exact Overlooks.inSession _ _

/-- A run overlooks the catalog and drops at most the firewall rules of its own project. -/
theorem provision_overlooks (env : Environment) (polling : Polling) (signal : Signal)
    (spec : MachineSpec) :
    Overlooks (spec.scope env.project).project (provision env polling signal spec) := by
  have split : provision env polling signal spec =
      (prepare env spec).inSession >>= fun run => run.launch env polling signal spec := rfl
  rw [split]
  apply (Overlooks.inSession _ _).bind
  rintro run ⟨before, after, prepared⟩
  rcases looked : prepare env spec before.world with ⟨outcome, later⟩
  rw [Work.inSession_of_eq looked] at prepared
  cases prepared
  rw [← scope_of_prepare looked]
  exact launch_overlooks env polling signal spec run

/-- Runs and dry runs from one world make the same exchanges, end alike and lead to one world,
whatever lists their catalogs have stored. A dry run changes nothing of its catalog. What a run
does to it is the same for every catalog, and is to drop the stored firewall rules of its own
project at most. -/
theorem launch_frame (env : Environment) (polling : Polling) (signal : Signal) (spec : MachineSpec)
    (world : World) :
    let project := (spec.scope env.project).project
    let run := provision env polling signal spec
    let trial := (plan env spec).inSession
    (∀ catalog other,
      run.made ⟨world, catalog⟩ = run.made ⟨world, other⟩ ∧
        (run ⟨world, catalog⟩).1 = (run ⟨world, other⟩).1 ∧
        (run ⟨world, catalog⟩).2.world = (run ⟨world, other⟩).2.world) ∧
    (∀ catalog other,
      trial.made ⟨world, catalog⟩ = trial.made ⟨world, other⟩ ∧
        (trial ⟨world, catalog⟩).1 = (trial ⟨world, other⟩).1 ∧
        (trial ⟨world, catalog⟩).2.world = (trial ⟨world, other⟩).2.world) ∧
    (∀ catalog, (trial ⟨world, catalog⟩).2.catalog = catalog) ∧
    ((∀ catalog, (run ⟨world, catalog⟩).2.catalog = catalog) ∨
      ∀ catalog, (run ⟨world, catalog⟩).2.catalog = catalog.withoutRules project) ∧
    ∀ catalog (drawer : Drawer) key, drawer = .firewalls ∧ key = firewallsKey project ∨
      (drawer.shelf.get (run ⟨world, catalog⟩).2.catalog).stored? key =
        (drawer.shelf.get catalog).stored? key := by
  intro project run trial
  have runs : Overlooks project run := provision_overlooks env polling signal spec
  have trials : Overlooks project trial := .inSession project (plan env spec)
  refine ⟨fun catalog other => ?_, fun catalog other => ?_, fun catalog => rfl, ?_, ?_⟩
  · exact ⟨runs.made_eq world catalog other, runs.outcome_eq world catalog other,
      runs.world_eq world catalog other⟩
  · exact ⟨trials.made_eq world catalog other, trials.outcome_eq world catalog other,
      trials.world_eq world catalog other⟩
  · obtain ⟨outcome, later, dropped, ends⟩ := runs world
    cases dropped with
    | false => exact .inl fun catalog => congrArg (fun result => result.2.catalog) (ends catalog)
    | true => exact .inr fun catalog => congrArg (fun result => result.2.catalog) (ends catalog)
  · intro catalog drawer key
    by_cases own : drawer = .firewalls ∧ key = firewallsKey project
    · exact .inl own
    · exact .inr (runs.stored?_eq world catalog fun rules same => own ⟨rules, same⟩)

end Launch

end VmLaunch
