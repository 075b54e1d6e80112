import VmLaunch.Proofs.Launch.Course

/-!
# The order of effects

A run makes its calls in the order of its stages, each after accepted answers only,
and looks nothing up once something may have changed.
-/

namespace VmLaunch.Launch

/-- Every stage but the polls makes at most one call. -/
theorem InOrder.at_most_one {env : Environment} {spec : MachineSpec} {scope : Scope}
    {steps : List Step} (inOrder : InOrder env spec scope steps) {stage : Stage}
    (once : stage ≠ .poll) : (steps.filter fun step => step.stage = stage).length ≤ 1 := by
  have ordered := inOrder.ordered.filter fun step => step.stage = stage
  have alike : ∀ step ∈ steps.filter fun step => step.stage = stage, step.stage = stage :=
    fun step member => by simpa using (List.mem_filter.mp member).2
  generalize steps.filter (fun step => step.stage = stage) = kept at ordered alike ⊢
  rcases kept with _ | ⟨early, _ | ⟨late, rest⟩⟩
  · exact Nat.zero_le 1
  · exact Nat.le_refl 1
  · have precedes := (List.pairwise_cons.mp ordered).1 late List.mem_cons_self
    rw [alike early List.mem_cons_self, alike late (by simp)] at precedes
    exact absurd precedes (Stage.not_precedes_self once)

/-- Once something may have been changed, nothing is looked up. -/
theorem InOrder.no_lookup_after_post {env : Environment} {spec : MachineSpec} {scope : Scope}
    {steps : List Step} (inOrder : InOrder env spec scope steps) :
    steps.Pairwise fun early late => early.call.isPost → ¬ late.stage.IsLookup := by
  refine inOrder.ordered.imp_of_mem fun {early late} first last precedes post lookup => ?_
  have places := (Stage.isPost_iff_of_asks (inOrder.asked early first)).mp post
  have order := Stage.rank_le_of_precedes precedes
  unfold Stage.IsLookup at lookup
  omega

/-- A lookup whose answer is of no use is the last call, so nothing was changed. -/
theorem InOrder.no_post_of_failed_lookup {env : Environment} {spec : MachineSpec} {scope : Scope}
    {steps : List Step} (inOrder : InOrder env spec scope steps) {lookup : Step}
    (member : lookup ∈ steps) (stage : lookup.stage.IsLookup) (failed : ¬ lookup.Accepted env) :
    ∀ step ∈ steps, step.call.isPost = false := by
  intro step among
  have harmless : ∀ other ∈ steps, other.stage.rank ≤ lookup.stage.rank →
      other.call.isPost = false := fun other present below =>
    Stage.not_isPost_of_asks (inOrder.asked other present) (Nat.lt_of_le_of_lt below stage)
  have split := List.dropLast_concat_getLast (List.ne_nil_of_mem member)
  have final : lookup = steps.getLast (List.ne_nil_of_mem member) := by
    rw [← split] at member
    rcases List.mem_append.mp member with front | final
    · exact absurd (inOrder.accepted lookup front) failed
    · exact List.mem_singleton.mp final
  rw [← final] at split
  apply harmless step among
  have ordered := inOrder.ordered
  rw [← split] at among ordered
  rcases List.mem_append.mp among with front | same
  · exact Stage.rank_le_of_precedes
      ((List.pairwise_append.mp ordered).2.2 step front lookup (List.mem_singleton_self lookup))
  · exact Nat.le_of_eq (by rw [List.mem_singleton.mp same])

/-- A run makes its calls in the order of its stages: the lookups, a creation for each
rule in turn, the insert, polls of its operation, and one reading of the machine. Only
polls repeat, and every call follows accepted answers only. So nothing is looked up once
something may have been changed, and nothing is changed after a lookup that failed. -/
theorem provision_order (env : Environment) (polling : Polling) (signal : Signal)
    (spec : MachineSpec) (session : Session) :
    ∃ steps : List Step,
      (provision env polling signal spec session).2.world.history =
        session.world.history ++ steps.map (Step.exchange env) ∧
      InOrder env spec (spec.scope env.project) steps ∧
      (∀ stage, stage ≠ .poll → (steps.filter fun step => step.stage = stage).length ≤ 1) ∧
      (steps.Pairwise fun early late => early.call.isPost → ¬ late.stage.IsLookup) ∧
      ∀ lookup ∈ steps, lookup.stage.IsLookup → ¬ lookup.Accepted env →
        ∀ step ∈ steps, step.call.isPost = false := by
  obtain ⟨steps, added, inOrder, -⟩ := provision_inOrder env polling signal spec session
  exact ⟨steps, added, inOrder, fun stage once => inOrder.at_most_one once,
    inOrder.no_lookup_after_post,
    fun lookup member stage failed => inOrder.no_post_of_failed_lookup member stage failed⟩

end VmLaunch.Launch
