import VmLaunch.Proofs.Course
import VmLaunch.Provider.Pages

/-!
# Providers with fixed answers

Work is `Steady` when it ends in the same way in every world. With a provider whose
answers are a function of the path, walking a list is steady.
-/

namespace VmLaunch

/-- Work that ends in the same way in every world. -/
def Work.Steady {α : Type} (work : Work World α) : Prop :=
  ∀ world other, (work world).1 = (work other).1

namespace Work

variable {α β : Type}

/-- A value that is given is the same in every world. -/
theorem steady_pure (value : α) : (Pure.pure value : Work World α).Steady :=
  fun _ _ => rfl

/-- An error that is given is the same in every world. -/
theorem steady_fail (cause : LaunchError) : (fail cause : Work World α).Steady :=
  fun _ _ => rfl

/-- Work that does not end does so in no world. -/
theorem steady_unfinished : (unfinished : Work World α).Steady :=
  fun _ _ => rfl

/-- Work ends in the same way in every world when its first part does and what follows any value of
it. -/
theorem Steady.bind {first : Work World α} {next : α → Work World β} (entry : first.Steady)
    (after : ∀ value, (next value).Steady) : (first >>= next).Steady := by
  intro world other
  have same := entry world other
  rcases run : first world with ⟨outcome, middle⟩
  rcases rerun : first other with ⟨outcome', middle'⟩
  rw [run, rerun] at same
  cases same
  cases outcome with
  | ok value =>
    rw [bind_of_ok run, bind_of_ok rerun]
    exact after value middle middle'
  | error cause => rw [bind_of_error run, bind_of_error rerun]
  | unfinished => rw [bind_of_unfinished run, bind_of_unfinished rerun]

end Work

/-- A provider whose answers are a function of the path. -/
def Environment.Fixed (env : Environment) (answers : String → Answer) : Prop :=
  ∀ world path, (env.reply world (.get path)).answer = answers path

section Fixed

variable {env : Environment} {answers : String → Answer} {α : Type}

/-- A call is answered in the same way in every world, when answers are fixed. -/
theorem Environment.Fixed.steady_callOr (fixed : env.Fixed answers) (path : String)
    (onFault : Fault → LaunchError) : (env.callOr (.get path) onFault).Steady := by
  have asked : ∀ world, (env.callOr (.get path) onFault world).1 =
      Outcome.ofExcept ((answers path).mapError onFault) := by
    intro world
    simp only [Environment.callOr, Environment.call, bind, Work.bind, fixed world path]
    cases answers path <;> rfl
  intro world other
  rw [asked, asked]

/-- A walk ends in the same way in every world, when answers are fixed. -/
theorem Page.steady_walk (fixed : env.Fixed answers) (read : Json → Option α) (list : String)
    (rounds : Nat) (token : Option String) (items : List α) :
    (walk env read list rounds token items).Steady := by
  induction rounds generalizing token items with
  | zero => exact Work.steady_unfinished
  | succ rounds inductionHypothesis =>
    refine (fixed.steady_callOr _ _).bind fun body => Work.Steady.bind ?_ fun page => ?_
    · cases decode read body with
      | none => exact Work.steady_fail _
      | some page => exact Work.steady_pure page
    · cases continuation token page.next with
      | none => exact Work.steady_pure _
      | some next => exact inductionHypothesis _ _

/-- A list of a provider with fixed answers is the same in every world. -/
theorem Page.steady_fetchAll (fixed : env.Fixed answers) (read : Json → Option α)
    (list : String) : (fetchAll env read list).Steady :=
  steady_walk fixed read list _ _ _

end Fixed

end VmLaunch
