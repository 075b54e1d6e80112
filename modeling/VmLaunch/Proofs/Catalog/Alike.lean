import VmLaunch.Proofs.Catalog.Query
import VmLaunch.Proofs.Provider.Walk

/-!
# Catalogs that read alike

Catalogs are `Alike` from a time on when no reading from then on tells them apart, so that they
differ at most in lists that have expired. With a provider that is a function of the path and the
time, what is asked of sessions at one time with alike catalogs goes `InStep`: it ends in the same
way, makes the same exchanges and leaves the catalogs alike.
-/

namespace VmLaunch

/-- A provider whose replies are a function of the path and the time. -/
def Environment.Timed (env : Environment) (replies : String → Nat → Reply) : Prop :=
  ∀ world path, env.reply world (.get path) = replies path world.now

namespace Work

variable {σ α β : Type} [Recording σ] {related : σ → σ → Prop}

/-- Work that ends in one way and makes the same exchanges from related states, and leaves them
related. -/
def InStep (related : σ → σ → Prop) (work : Work σ α) : Prop :=
  ∀ state other, related state other →
    (work state).1 = (work other).1 ∧ related (work state).2 (work other).2 ∧
      ∃ made, Recording.history (work state).2 = Recording.history state ++ made ∧
        Recording.history (work other).2 = Recording.history other ++ made

/-- A result that is given goes in step. -/
theorem inStep_ofExcept (result : Except LaunchError α) :
    InStep related (ofExcept result : Work σ α) := by
  intro state other same
  cases result <;> exact ⟨rfl, same, [], (List.append_nil _).symm, (List.append_nil _).symm⟩

/-- A value that is given goes in step. -/
theorem inStep_pure (value : α) : InStep related (Pure.pure value : Work σ α) :=
  inStep_ofExcept (.ok value)

/-- Work that does not end goes in step. -/
theorem inStep_unfinished : InStep related (unfinished : Work σ α) :=
  fun _ _ same => ⟨rfl, same, [], (List.append_nil _).symm, (List.append_nil _).symm⟩

/-- Work goes in step when its first part does and what follows any value of it. -/
theorem InStep.bind {first : Work σ α} {next : α → Work σ β} (entry : InStep related first)
    (after : ∀ value, InStep related (next value)) : InStep related (first >>= next) := by
  intro state other same
  obtain ⟨outcomes, still, made, added, otherAdded⟩ := entry state other same
  rcases run : first state with ⟨outcome, middle⟩
  rcases rerun : first other with ⟨otherOutcome, otherMiddle⟩
  rw [run, rerun] at outcomes still
  rw [run] at added
  rw [rerun] at otherAdded
  cases outcomes
  cases outcome with
  | ok value =>
    obtain ⟨ends, remain, more, goesOn, otherGoesOn⟩ := after value middle otherMiddle still
    rw [bind_of_ok run, bind_of_ok rerun]
    refine ⟨ends, remain, made ++ more, ?_, ?_⟩
    · rw [goesOn, added, List.append_assoc]
    · rw [otherGoesOn, otherAdded, List.append_assoc]
  | error cause =>
    rw [bind_of_error run, bind_of_error rerun]
    exact ⟨rfl, still, made, added, otherAdded⟩
  | unfinished =>
    rw [bind_of_unfinished run, bind_of_unfinished rerun]
    exact ⟨rfl, still, made, added, otherAdded⟩

/-- Work in step makes the same exchanges from related states. -/
theorem InStep.made_eq {work : Work σ α} (inStep : InStep related work) {state other : σ}
    (same : related state other) : work.made state = work.made other := by
  obtain ⟨-, -, made, added, otherAdded⟩ := inStep state other same
  rw [Work.made_eq added, Work.made_eq otherAdded]

/-- Work that does not turn the clock back. -/
def Onward (work : Work World α) : Prop :=
  ∀ world, world.now ≤ (work world).2.now

/-- Work does not turn the clock back when none of its parts does. -/
theorem Onward.bind {first : Work World α} {next : α → Work World β} (entry : first.Onward)
    (after : ∀ value, (next value).Onward) : (first >>= next).Onward := by
  intro world
  have first_le := entry world
  rcases run : first world with ⟨_ | _ | _, middle⟩ <;> rw [run] at first_le
  · rw [bind_of_ok run]
    exact Nat.le_trans first_le (after _ middle)
  · rwa [bind_of_error run]
  · rwa [bind_of_unfinished run]

/-- A value that is given does not turn the clock back. -/
theorem onward_pure (value : α) : (Pure.pure value : Work World α).Onward :=
  fun _ => Nat.le_refl _

/-- Asking takes time or none. -/
theorem onward_ask (env : Environment) (call : Call) (judge : Answer → Except LaunchError α) :
    (ask env call judge).Onward := by
  intro world
  rw [ask_apply]
  exact Nat.le_add_right _ _

/-- Worlds at one time. -/
def Together (world other : World) : Prop :=
  world.now = other.now

/-- A provider that is timed replies in the same way at one time. -/
theorem inStep_ask {env : Environment} {replies : String → Nat → Reply}
    (timed : env.Timed replies) (path : String) (judge : Answer → Except LaunchError α) :
    InStep Together (ask env (.get path) judge) := by
  intro world other same
  have now : world.now = other.now := same
  have reply : env.reply world (.get path) = env.reply other (.get path) := by
    rw [timed, timed, now]
  have exchanged : env.exchange world (.get path) = env.exchange other (.get path) := by
    rw [Environment.exchange, Environment.exchange, reply, now]
  rw [ask_apply, ask_apply]
  refine ⟨congrArg (fun reply => Outcome.ofExcept (judge reply.answer)) reply, ?_,
    [env.exchange world (.get path)], rfl, ?_⟩
  · change world.now + _ = other.now + _
    rw [reply, now]
  · rw [exchanged]
    rfl

end Work

namespace Page

variable {α : Type} {env : Environment} {replies : String → Nat → Reply}

/-- A walk does not turn the clock back. -/
theorem onward_walk (env : Environment) (read : Json → Option α) (list : String) (rounds : Nat)
    (token : Option String) (items : List α) : (walk env read list rounds token items).Onward := by
  induction rounds generalizing token items with
  | zero => exact fun _ => Nat.le_refl _
  | succ rounds inductionHypothesis =>
    rw [walk_succ]
    refine (Work.onward_ask env _ _).bind fun page => ?_
    cases continuation token page.next with
    | none => exact Work.onward_pure _
    | some next => exact inductionHypothesis (some next) _

/-- Walks that set out at one time go in step. -/
theorem inStep_walk (timed : env.Timed replies) (read : Json → Option α) (list : String)
    (rounds : Nat) (token : Option String) (items : List α) :
    Work.InStep Work.Together (walk env read list rounds token items) := by
  induction rounds generalizing token items with
  | zero => exact Work.inStep_unfinished
  | succ rounds inductionHypothesis =>
    rw [walk_succ]
    refine (Work.inStep_ask timed _ _).bind fun page => ?_
    cases continuation token page.next with
    | none => exact Work.inStep_pure _
    | some next => exact inductionHypothesis (some next) _

end Page

/-- An entry that is dropped because it has expired is never missed. -/
theorem Cache.peek?_evict {α : Type} {cache : Cache α} {now later : Nat} (onward : now ≤ later)
    (key other : String) : (cache.evict now other).peek? later key = cache.peek? later key := by
  by_cases same : key = other
  · subst same
    refine Option.ext fun value => ?_
    simp only [peek?_eq_some_iff, stored?_evict_self_iff]
    constructor
    · rintro ⟨entry, ⟨stored, -⟩, live, held⟩
      exact ⟨entry, stored, live, held⟩
    · rintro ⟨entry, stored, live, held⟩
      exact ⟨entry, ⟨stored, Nat.lt_of_le_of_lt onward live⟩, live, held⟩
  · exact peek?_congr (stored?_evict_of_ne same)

namespace Catalog

/-- Catalogs that no reading from a time on tells apart, and whose lists live for one time. -/
structure Alike (now : Nat) (catalog other : Catalog) : Prop where
  found : ∀ (drawer : Drawer) (key : String) (later : Nat), now ≤ later →
    (drawer.shelf.get catalog).peek? later key = (drawer.shelf.get other).peek? later key
  lives : ∀ drawer : Drawer, (drawer.shelf.get catalog).ttl = (drawer.shelf.get other).ttl

namespace Alike

variable {now later : Nat} {catalog other third : Catalog}

/-- A catalog reads like itself. -/
theorem refl (now : Nat) (catalog : Catalog) : Alike now catalog catalog :=
  ⟨fun _ _ _ _ => rfl, fun _ => rfl⟩

/-- Catalogs read alike in either order. -/
theorem symm (alike : Alike now catalog other) : Alike now other catalog :=
  ⟨fun drawer key later onward => (alike.found drawer key later onward).symm,
    fun drawer => (alike.lives drawer).symm⟩

/-- Catalogs that read like a third read alike. -/
theorem trans (alike : Alike now catalog other) (next : Alike now other third) :
    Alike now catalog third :=
  ⟨fun drawer key later onward =>
      (alike.found drawer key later onward).trans (next.found drawer key later onward),
    fun drawer => (alike.lives drawer).trans (next.lives drawer)⟩

/-- Catalogs that read alike from a time on do so from later times on. -/
theorem mono (alike : Alike now catalog other) (onward : now ≤ later) :
    Alike later catalog other :=
  ⟨fun drawer key moment after => alike.found drawer key moment (Nat.le_trans onward after),
    alike.lives⟩

/-- What is put into a drawer of alike catalogs keeps them alike, when it reads alike. -/
theorem put (alike : Alike now catalog other) {drawer : Drawer}
    {cache otherCache : Cache (List drawer.Entry)}
    (found : ∀ key later, now ≤ later → cache.peek? later key = otherCache.peek? later key)
    (lives : cache.ttl = otherCache.ttl) :
    Alike now (drawer.shelf.put cache catalog) (drawer.shelf.put otherCache other) where
  found place key later onward := by
    by_cases same : place = drawer
    · subst same
      rw [Drawer.get_put, Drawer.get_put, found key later onward]
    · rw [Drawer.get_put_of_ne same, Drawer.get_put_of_ne same, alike.found place key later onward]
  lives place := by
    by_cases same : place = drawer
    · subst same
      rw [Drawer.get_put, Drawer.get_put, lives]
    · rw [Drawer.get_put_of_ne same, Drawer.get_put_of_ne same, alike.lives place]

/-- Looking a key up drops nothing that is found from then on. -/
theorem evict (drawer : Drawer) (now : Nat) (key : String) (catalog : Catalog) :
    Alike now (drawer.shelf.put ((drawer.shelf.get catalog).evict now key) catalog) catalog where
  found place other later onward := by
    by_cases same : place = drawer
    · subst same
      rw [Drawer.get_put, Cache.peek?_evict onward]
    · rw [Drawer.get_put_of_ne same]
  lives place := Drawer.ttl_put (Cache.ttl_evict _ _ _) place

/-- Alike catalogs in which one list is stored stay alike. -/
theorem set (alike : Alike now catalog other) (drawer : Drawer) (key : String)
    (items : List drawer.Entry) :
    Alike now (drawer.shelf.put ((drawer.shelf.get catalog).set now key items) catalog)
      (drawer.shelf.put ((drawer.shelf.get other).set now key items) other) := by
  refine alike.put (fun place later onward => ?_) (alike.lives drawer)
  by_cases same : place = key
  · subst same
    refine Cache.peek?_congr ?_
    rw [Cache.stored?_set_self, Cache.stored?_set_self, Cache.expiry, Cache.expiry,
      alike.lives drawer]
  · rw [Cache.peek?_congr (Cache.stored?_set_of_ne same),
      Cache.peek?_congr (Cache.stored?_set_of_ne same), alike.found drawer place later onward]

/-- Alike catalogs from which one list is dropped stay alike. -/
theorem erase (alike : Alike now catalog other) (drawer : Drawer) (key : String) :
    Alike now (drawer.shelf.put ((drawer.shelf.get catalog).erase key) catalog)
      (drawer.shelf.put ((drawer.shelf.get other).erase key) other) := by
  refine alike.put (fun place later onward => ?_) (alike.lives drawer)
  by_cases same : place = key
  · subst same
    rw [Cache.peek?_erase_self, Cache.peek?_erase_self]
  · rw [Cache.peek?_congr (Cache.stored?_erase_of_ne same),
      Cache.peek?_congr (Cache.stored?_erase_of_ne same), alike.found drawer place later onward]

end Alike

end Catalog

end VmLaunch
