import VmLaunch.Proofs.Inquiry
import VmLaunch.Proofs.Launch.Stage

/-!
# Passages

A `Passage` leads through the worlds of a run: every moment of it, a call or a sleep, happens in
the world that the moment before has left. `Work.Treads` relates work that asks and never sleeps to
a course along the worlds in which its steps are really made; such work follows the course.
-/

namespace VmLaunch

namespace Launch

/-- What a run does in its world: it asks the provider or sleeps. -/
inductive Moment where
  | asked (step : Step)
  | slept (world : World) (d : Duration)

namespace Moment

/-- The world in which a moment begins. -/
def world : Moment → World
  | asked step => step.world
  | slept world _ => world

/-- The world that a moment leaves. -/
def after (env : Environment) : Moment → World
  | asked step => step.world.afterCall step.call (env.reply step.world step.call)
  | slept world d => world.afterPause (env.pause world d)

/-- The step of a moment that asks. -/
def step? : Moment → Option Step
  | asked step => some step
  | slept _ _ => none

/-- The steps of moments that only ask. -/
theorem filterMap_step?_map_asked (steps : List Step) :
    (steps.map asked).filterMap step? = steps := by
  rw [List.filterMap_map]
  exact List.filterMap_some

/-- A moment that asks is a step. -/
@[simp]
theorem filterMap_step?_asked (step : Step) (moments : List Moment) :
    (asked step :: moments).filterMap step? = step :: moments.filterMap step? :=
  List.filterMap_cons_some rfl

/-- A moment of sleep is no step. -/
@[simp]
theorem filterMap_step?_slept (world : World) (d : Duration) (moments : List Moment) :
    (slept world d :: moments).filterMap step? = moments.filterMap step? :=
  List.filterMap_cons_none rfl

end Moment

/-- Moments in turn, each in the world that the one before has left. -/
inductive Passage (env : Environment) : World → List Moment → World → Prop where
  | nil {world} : Passage env world [] world
  | cons {moment moments later} (rest : Passage env (moment.after env) moments later) :
      Passage env moment.world (moment :: moments) later

namespace Passage

variable {env : Environment} {world middle later : World} {moments rest : List Moment}

/-- One moment leads from its world to the one that it leaves. -/
theorem single (moment : Moment) : Passage env moment.world [moment] (moment.after env) :=
  .cons .nil

/-- Moments go on in the world that others have left. -/
theorem trans (first : Passage env world moments middle) (second : Passage env middle rest later) :
    Passage env world (moments ++ rest) later := by
  induction first with
  | nil => exact second
  | cons _ inductionHypothesis => exact .cons (inductionHypothesis second)

/-- A passage adds the exchanges of its steps to the history. -/
theorem history (passage : Passage env world moments later) :
    later.history =
      world.history ++ (moments.filterMap Moment.step?).map (Step.exchange env) := by
  induction passage with
  | nil => simp
  | @cons moment _ _ _ inductionHypothesis =>
    rw [inductionHypothesis]
    cases moment with
    | asked step =>
      simp [Moment.after, Moment.world, World.afterCall, Step.exchange, Step.answer]
    | slept world d => simp [Moment.after, Moment.world, World.afterPause]

end Passage

end Launch

namespace Work

open Launch

variable {α β : Type} {env : Environment}

/-- From every world the work takes one of the ways of a course, through the worlds in which the
steps of that way are made. -/
def Treads (env : Environment) (work : Work World α) (course : Course Step α) : Prop :=
  ∀ world, ∃ steps : List Step,
    Passage env world (steps.map .asked) (work world).2 ∧ course steps (work world).1

/-- Work that treads a course follows it. -/
theorem Treads.follows {work : Work World α} {course : Course Step α}
    (treads : work.Treads env course) : work.Follows (Step.exchange env) course := by
  intro world
  obtain ⟨steps, passage, way⟩ := treads world
  have added := passage.history
  rw [Moment.filterMap_step?_map_asked] at added
  exact ⟨steps, added, way⟩

/-- Work that treads a narrow course treads a wider one. -/
theorem Treads.mono {work : Work World α} {narrow wide : Course Step α}
    (treads : work.Treads env narrow)
    (widen : ∀ steps outcome, narrow steps outcome → wide steps outcome) :
    work.Treads env wide := by
  intro world
  obtain ⟨steps, passage, way⟩ := treads world
  exact ⟨steps, passage, widen _ _ way⟩

/-- A result that is given treads a course without steps. -/
theorem treads_ofExcept (result : Except LaunchError α) {course : Course Step α}
    (silent : course [] (Outcome.ofExcept result)) :
    (ofExcept result : Work World α).Treads env course := by
  intro world
  cases result with
  | ok value => exact ⟨[], .nil, silent⟩
  | error cause => exact ⟨[], .nil, silent⟩

/-- Work treads the courses of its parts one after the other. -/
theorem Treads.bind {first : Work World α} {next : α → Work World β} {head : Course Step α}
    {tail : α → Course Step β} (entry : first.Treads env head)
    (after : ∀ value, (next value).Treads env (tail value)) :
    (first >>= next).Treads env (head.Then tail) := by
  intro world
  obtain ⟨steps, passage, way⟩ := entry world
  rcases run : first world with ⟨outcome, middle⟩
  rw [run] at passage way
  cases outcome with
  | ok value =>
    obtain ⟨rest, more, onward⟩ := after value middle
    rw [bind_of_ok run]
    exact ⟨steps ++ rest, by simpa using passage.trans more, .passed way onward⟩
  | error cause =>
    rw [bind_of_error run]
    exact ⟨steps, passage, .failed way⟩
  | unfinished =>
    rw [bind_of_unfinished run]
    exact ⟨steps, passage, .unfinished way⟩

/-- Asking is one step, made in the present world. -/
theorem treads_ask (env : Environment) (stage : Stage) (call : Call)
    (judge : Answer → Except LaunchError α) :
    (ask env call judge).Treads env fun steps outcome =>
      ∃ world, steps = [⟨stage, world, call⟩] ∧
        outcome = Outcome.ofExcept (judge (env.reply world call).answer) := by
  intro world
  rw [ask_apply]
  exact ⟨[⟨stage, world, call⟩], .single (.asked ⟨stage, world, call⟩), world, rfl, rfl⟩

end Work

/-- An inquiry is made in the world of its step. -/
theorem Inquiry.perform_treads {α : Type} (inquiry : Inquiry α) (env : Environment)
    (stage : Launch.Stage) :
    (inquiry.perform env).Treads env (inquiry.course env (Launch.Step.mk stage)) := by
  cases inquiry with
  | decided result => exact Work.treads_ofExcept result ⟨rfl, rfl⟩
  | asking call judge => exact Work.treads_ask env stage call judge

end VmLaunch
