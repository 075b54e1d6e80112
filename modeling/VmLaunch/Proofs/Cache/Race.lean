import Mathlib.Logic.Function.Basic
import VmLaunch.Proofs.Catalog.Cache

/-!
# Callers that share a cache

Any number of callers use one cache, and between any two steps of one of them the others and the
clock may move. A read takes three steps: it takes the time, looks its key up, and drops the entry
if that had expired by the time taken; a write takes two: it works out when its entry expires, and
stores it. Each step sees and changes the cache as a whole.

Between looking up and dropping, another caller may have stored a fresh entry. It is kept, because
dropping looks again at what it finds: `keeps_live` says so of every run.
-/

namespace VmLaunch.Cache

variable {ι α : Type}

/-- How far a caller is with its operation. -/
inductive Turn (α : Type) where
  | idle
  | looking (key : String) (reading : Nat)
  | dropping (key : String) (reading : Nat)
  | storing (key : String) (entry : Stored α)

/-- The key and the time of a read on its way. -/
def Turn.reading? : Turn α → Option (String × Nat)
  | looking key reading => some (key, reading)
  | dropping key reading => some (key, reading)
  | _ => none

/-- A clock and a cache with all that use them. -/
structure Scene (ι α : Type) where
  now : Nat
  cache : Cache α
  turns : ι → Turn α

/-- What a read does in one step. -/
inductive ReadStep (α : Type) where
  | takesTime
  | answers (value : α)
  | misses
  | findsExpired
  | drops

/-- What happens in one step. A step of a read goes with the time that the read took. -/
inductive Event (ι α : Type) where
  | tick
  | reads (caller : ι) (key : String) (reading : Nat) (step : ReadStep α)
  | prepares (caller : ι) (key : String) (entry : Stored α)
  | stores (caller : ι) (key : String) (entry : Stored α)
  | invalidates (caller : ι) (key : String)

/-- Whether an event invalidates a key or puts another entry in its place. -/
def Event.Replaces (key : String) : Event ι α → Prop
  | stores _ other _ => other = key
  | invalidates _ other => other = key
  | _ => False

/-- Whether the latest read that a caller began took this time for this key. -/
def Began (events : List (Event ι α)) (caller : ι) (key : String) (reading : Nat) : Prop :=
  ∃ before since, events = before ++ .reads caller key reading .takesTime :: since ∧
    ∀ other later, .reads caller other later .takesTime ∉ since

/-- A read begins when it takes the time. -/
theorem Began.here (events : List (Event ι α)) (caller : ι) (key : String) (reading : Nat) :
    Began (events ++ [.reads caller key reading .takesTime]) caller key reading :=
  ⟨events, [], rfl, by simp⟩

/-- A read has begun until its caller takes the time for another one. -/
theorem Began.snoc {events : List (Event ι α)} {event : Event ι α} {caller : ι} {key : String}
    {reading : Nat} (began : Began events caller key reading)
    (otherwise : ∀ other later, event ≠ .reads caller other later .takesTime) :
    Began (events ++ [event]) caller key reading := by
  obtain ⟨before, since, rfl, none⟩ := began
  refine ⟨before, since ++ [event], by simp, fun other later member => ?_⟩
  rcases List.mem_append.mp member with earlier | last
  · exact none other later earlier
  · exact otherwise other later (List.mem_singleton.mp last).symm

namespace Scene

/-- The scene with another cache. -/
def withCache (scene : Scene ι α) (cache : Cache α) : Scene ι α :=
  { scene with cache }

@[simp]
theorem withCache_cache (scene : Scene ι α) : scene.withCache scene.cache = scene :=
  rfl

@[simp]
theorem turns_withCache (scene : Scene ι α) (cache : Cache α) :
    (scene.withCache cache).turns = scene.turns :=
  rfl

variable [DecidableEq ι]

/-- The scene with one caller elsewhere. -/
def turn (scene : Scene ι α) (caller : ι) (turn : Turn α) : Scene ι α :=
  { scene with turns := Function.update scene.turns caller turn }

@[simp]
theorem cache_turn (scene : Scene ι α) (caller : ι) (turn : Turn α) :
    (scene.turn caller turn).cache = scene.cache :=
  rfl

@[simp]
theorem withCache_turn (scene : Scene ι α) (cache : Cache α) (caller : ι) (turn : Turn α) :
    (scene.turn caller turn).withCache cache = (scene.withCache cache).turn caller turn :=
  rfl

/-- Where a caller was put last is where it is. -/
@[simp]
theorem turn_turn (scene : Scene ι α) (caller : ι) (first second : Turn α) :
    (scene.turn caller first).turn caller second = scene.turn caller second := by
  simp [turn]

/-- A caller is where it was put. -/
@[simp]
theorem turns_turn_self (scene : Scene ι α) (caller : ι) (turn : Turn α) :
    (scene.turn caller turn).turns caller = turn := by
  simp [Scene.turn]

/-- To put one caller elsewhere moves no other. -/
theorem turns_turn_of_ne (scene : Scene ι α) {caller other : ι} (turn : Turn α)
    (apart : other ≠ caller) : (scene.turn caller turn).turns other = scene.turns other :=
  Function.update_of_ne apart _ _

/-- Reads on their way after one caller went on were on their way before, if its own was. -/
theorem reading?_of_turn {scene : Scene ι α} {caller other : ι} {turn : Turn α}
    {read : String × Nat}
    (kept : turn.reading? = some read → (scene.turns caller).reading? = some read)
    (onWay : ((scene.turn caller turn).turns other).reading? = some read) :
    (scene.turns other).reading? = some read := by
  by_cases same : other = caller
  · subst same
    exact kept (by rwa [turns_turn_self] at onWay)
  · rwa [turns_turn_of_ne _ _ same] at onWay

/-- A caller that was idle and is idle again is where it was. -/
theorem turn_idle {scene : Scene ι α} {caller : ι} (idle : scene.turns caller = .idle) :
    scene.turn caller .idle = scene := by
  rw [turn, ← idle, Function.update_eq_self]

end Scene

section Moves

variable [DecidableEq ι]

/-- One step of the clock or of a caller. -/
inductive Moves : Scene ι α → Event ι α → Scene ι α → Prop where
  | tick {scene : Scene ι α} {later : Nat} (onward : scene.now ≤ later) :
      Moves scene .tick { scene with now := later }
  | takesTime {scene : Scene ι α} {caller : ι} (key : String)
      (idle : scene.turns caller = .idle) :
      Moves scene (.reads caller key scene.now .takesTime)
        (scene.turn caller (.looking key scene.now))
  | misses {scene : Scene ι α} {caller : ι} {key : String} {reading : Nat}
      (looking : scene.turns caller = .looking key reading)
      (absent : scene.cache.stored? key = none) :
      Moves scene (.reads caller key reading .misses) (scene.turn caller .idle)
  | answers {scene : Scene ι α} {caller : ι} {key : String} {reading : Nat} {entry : Stored α}
      (looking : scene.turns caller = .looking key reading)
      (found : scene.cache.stored? key = some entry) (live : Stored.live reading entry) :
      Moves scene (.reads caller key reading (.answers entry.value)) (scene.turn caller .idle)
  | findsExpired {scene : Scene ι α} {caller : ι} {key : String} {reading : Nat}
      {entry : Stored α} (looking : scene.turns caller = .looking key reading)
      (found : scene.cache.stored? key = some entry) (expired : ¬ Stored.live reading entry) :
      Moves scene (.reads caller key reading .findsExpired)
        (scene.turn caller (.dropping key reading))
  | drops {scene : Scene ι α} {caller : ι} {key : String} {reading : Nat}
      (dropping : scene.turns caller = .dropping key reading) :
      Moves scene (.reads caller key reading .drops)
        ((scene.withCache (scene.cache.evict reading key)).turn caller .idle)
  | prepares {scene : Scene ι α} {caller : ι} (key : String) (value : α)
      (idle : scene.turns caller = .idle) :
      Moves scene (.prepares caller key ⟨value, scene.cache.expiry scene.now⟩)
        (scene.turn caller (.storing key ⟨value, scene.cache.expiry scene.now⟩))
  | stores {scene : Scene ι α} {caller : ι} {key : String} {entry : Stored α}
      (storing : scene.turns caller = .storing key entry) :
      Moves scene (.stores caller key entry)
        ((scene.withCache (scene.cache.insert key entry)).turn caller .idle)
  | invalidates {scene : Scene ι α} {caller : ι} (key : String)
      (idle : scene.turns caller = .idle) :
      Moves scene (.invalidates caller key) (scene.withCache (scene.cache.invalidate key).2)

/-- Steps of any callers in any order, with what happens in them. -/
inductive Runs : Scene ι α → List (Event ι α) → Scene ι α → Prop where
  | refl {scene : Scene ι α} : Runs scene [] scene
  | step {scene middle final : Scene ι α} {events : List (Event ι α)} {event : Event ι α}
      (prior : Runs scene events middle) (move : Moves middle event final) :
      Runs scene (events ++ [event]) final

variable {start scene next : Scene ι α} {caller : ι} {key : String} {reading : Nat}
  {entry : Stored α} {event : Event ι α} {events : List (Event ι α)}

/-- One step is a run. -/
theorem Runs.single (move : Moves scene event next) : Runs scene [event] next :=
  .step .refl move

/-- A run goes on where another has ended. -/
theorem Runs.trans {later : List (Event ι α)} (first : Runs start events scene)
    (second : Runs scene later next) : Runs start (events ++ later) next := by
  induction second with
  | refl => simpa using first
  | step _ move inductionHypothesis =>
    simpa [List.append_assoc] using inductionHypothesis.step move

section Alone

/-- The steps of a read, one after the other, are the read. -/
theorem runs_get (idle : scene.turns caller = .idle) (key : String) :
    ∃ steps : List (ReadStep α),
      Runs scene (steps.map (.reads caller key scene.now))
        (scene.withCache (scene.cache.get scene.now key).2) ∧
      ∀ value, .answers value ∈ steps ↔ (scene.cache.get scene.now key).1 = some value := by
  have taken := Runs.single (Moves.takesTime key idle)
  cases found : scene.cache.stored? key with
  | none =>
    refine ⟨[.takesTime, .misses], ?_, by simp [Cache.get, peek?, found]⟩
    have missed := taken.step (Moves.misses (scene.turns_turn_self _ _) found)
    simpa [Cache.get, evict, found, Scene.turn_idle idle] using missed
  | some entry =>
    by_cases live : Stored.live scene.now entry
    · refine ⟨[.takesTime, .answers entry.value], ?_,
        by simp [Cache.get, peek?, found, live, eq_comm]⟩
      have answered := taken.step (Moves.answers (scene.turns_turn_self _ _) found live)
      simpa [Cache.get, evict, found, live, Scene.turn_idle idle] using answered
    · refine ⟨[.takesTime, .findsExpired, .drops], ?_, by simp [Cache.get, peek?, found, live]⟩
      have expired := taken.step (Moves.findsExpired (scene.turns_turn_self _ _) found live)
      have dropped := expired.step (Moves.drops (Scene.turns_turn_self _ _ _))
      have still : (scene.withCache (scene.cache.evict scene.now key)).turn caller .idle = _ :=
        Scene.turn_idle idle
      simpa [Cache.get, still] using dropped

/-- The steps of a write, one after the other, are the write. -/
theorem runs_set (idle : scene.turns caller = .idle) (key : String) (value : α) :
    ∃ entry, Runs scene [.prepares caller key entry, .stores caller key entry]
      (scene.withCache (scene.cache.set scene.now key value)) := by
  have stored := (Runs.single (Moves.prepares key value idle)).step
    (Moves.stores (scene.turns_turn_self _ _))
  have still : (scene.withCache (scene.cache.set scene.now key value)).turn caller .idle = _ :=
    Scene.turn_idle idle
  refine ⟨⟨value, scene.cache.expiry scene.now⟩, ?_⟩
  rw [← still]
  simpa [set] using stored

end Alone

section Readings

/-- No step turns the clock back. -/
theorem Moves.now_le (move : Moves scene event next) : scene.now ≤ next.now := by
  cases move with
  | tick onward => exact onward
  | _ => exact Nat.le_refl _

/-- A read on its way has just taken the time, or it was on its way before. -/
theorem Moves.reading?_cases (move : Moves scene event next) (caller : ι)
    (onWay : (next.turns caller).reading? = some (key, reading)) :
    (event = .reads caller key reading .takesTime ∧ reading = scene.now) ∨
      (scene.turns caller).reading? = some (key, reading) ∧
        ∀ other later, event ≠ .reads caller other later .takesTime := by
  cases move with
  | tick onward => exact .inr ⟨onWay, by simp⟩
  | @takesTime reader key idle =>
    by_cases same : caller = reader
    · subst same
      rw [Scene.turns_turn_self] at onWay
      cases onWay
      exact .inl ⟨rfl, rfl⟩
    · rw [Scene.turns_turn_of_ne _ _ same] at onWay
      refine .inr ⟨onWay, fun other later taken => ?_⟩
      cases taken
      exact same rfl
  | misses looking absent => exact .inr ⟨Scene.reading?_of_turn (by rintro ⟨⟩) onWay, by simp⟩
  | answers looking found live => exact .inr ⟨Scene.reading?_of_turn (by rintro ⟨⟩) onWay, by simp⟩
  | findsExpired looking found expired =>
    exact .inr ⟨Scene.reading?_of_turn (fun same => looking ▸ same) onWay, by simp⟩
  | drops dropping => exact .inr ⟨Scene.reading?_of_turn (by rintro ⟨⟩) onWay, by simp⟩
  | prepares key value idle => exact .inr ⟨Scene.reading?_of_turn (by rintro ⟨⟩) onWay, by simp⟩
  | stores storing => exact .inr ⟨Scene.reading?_of_turn (by rintro ⟨⟩) onWay, by simp⟩
  | invalidates key idle => exact .inr ⟨onWay, by simp⟩

/-- Whether reads on their way have the time that they began with. -/
def Timely (events : List (Event ι α)) (scene : Scene ι α) : Prop :=
  ∀ caller key reading, (scene.turns caller).reading? = some (key, reading) →
    reading ≤ scene.now ∧ Began events caller key reading

/-- Reads on their way have the time that they began with, after one more step too. -/
theorem Timely.move (timely : Timely events scene) (move : Moves scene event next) :
    Timely (events ++ [event]) next := by
  intro caller key reading onWay
  rcases move.reading?_cases caller onWay with ⟨rfl, rfl⟩ | ⟨before, otherwise⟩
  · exact ⟨move.now_le, .here _ _ _ _⟩
  · obtain ⟨past, began⟩ := timely caller key reading before
    exact ⟨Nat.le_trans past move.now_le, began.snoc otherwise⟩

/-- In a run that began with idle callers reads have the time that they began with. -/
theorem Runs.timely (idle : ∀ caller, start.turns caller = .idle)
    (runs : Runs start events scene) : Timely events scene := by
  induction runs with
  | refl =>
    intro caller key reading onWay
    rw [idle caller] at onWay
    cases onWay
  | step _ move inductionHypothesis => exact inductionHypothesis.move move

end Readings

section Keeping

/-- An entry goes when it is replaced, or when it had expired by the time taken by a read that drops
it. -/
theorem Moves.stored?_cases (move : Moves scene event next)
    (found : scene.cache.stored? key = some entry) :
    next.cache.stored? key = some entry ∨ event.Replaces key ∨
      ∃ caller reading, event = .reads caller key reading .drops ∧ entry.expires ≤ reading := by
  cases move with
  | @drops reader dropped reading dropping =>
    by_cases same : key = dropped
    · subst same
      by_cases live : reading < entry.expires
      · exact .inl (stored?_evict_self_iff.mpr ⟨found, live⟩)
      · exact .inr (.inr ⟨reader, reading, rfl, Nat.le_of_not_lt live⟩)
    · exact .inl ((stored?_evict_of_ne same).trans found)
  | @stores writer stored _ storing =>
    by_cases same : key = stored
    · exact .inr (.inl same.symm)
    · exact .inl ((stored?_insert_of_ne same).trans found)
  | @invalidates caller dropped idle =>
    by_cases same : key = dropped
    · exact .inr (.inl same.symm)
    · exact .inl ((stored?_erase_of_ne same).trans found)
  | _ => exact .inl found

/-- A read drops nothing that was still live at the time it took. -/
theorem Moves.spares {step : ReadStep α} {other : String}
    (move : Moves scene (.reads caller key reading step) next)
    (found : scene.cache.stored? other = some entry) (live : reading < entry.expires) :
    next.cache.stored? other = some entry := by
  rcases move.stored?_cases found with kept | replaced | ⟨reader, time, same, expired⟩
  · exact kept
  · exact replaced.elim
  · cases same
    exact absurd live (Nat.not_lt_of_le expired)

/-- The time that a read took is the one it began with. -/
theorem Timely.began {step : ReadStep α} (timely : Timely events scene)
    (move : Moves scene (.reads caller key reading step) next) :
    reading ≤ scene.now ∧
      Began (events ++ [.reads caller key reading step]) caller key reading := by
  have onWay (turn : (scene.turns caller).reading? = some (key, reading))
      (otherwise : step ≠ .takesTime) : reading ≤ scene.now ∧
        Began (events ++ [.reads caller key reading step]) caller key reading := by
    obtain ⟨past, began⟩ := timely caller key reading turn
    exact ⟨past, began.snoc (by simp [otherwise])⟩
  cases move with
  | takesTime key idle => exact ⟨Nat.le_refl _, .here _ _ _ _⟩
  | misses looking absent => exact onWay (looking ▸ rfl) nofun
  | answers looking found live => exact onWay (looking ▸ rfl) nofun
  | findsExpired looking found expired => exact onWay (looking ▸ rfl) nofun
  | drops dropping => exact onWay (dropping ▸ rfl) nofun

/-- A live entry stays unless it is replaced. -/
theorem Timely.keeps (timely : Timely events scene) (move : Moves scene event next)
    (found : scene.cache.stored? key = some entry) (live : scene.now < entry.expires) :
    next.cache.stored? key = some entry ∨ event.Replaces key := by
  rcases move.stored?_cases found with kept | replaced | ⟨reader, reading, rfl, expired⟩
  · exact .inl kept
  · exact .inr replaced
  · have past := (timely.began move).1
    omega

/-- An entry that no one replaces stays as long as it is live. -/
theorem Timely.keeps_runs {later : List (Event ι α)} (timely : Timely events scene)
    (runs : Runs scene later next) (found : scene.cache.stored? key = some entry)
    (live : next.now < entry.expires) (unreplaced : ∀ event ∈ later, ¬ event.Replaces key) :
    next.cache.stored? key = some entry ∧ Timely (events ++ later) next := by
  induction runs with
  | refl => exact ⟨found, by simpa using timely⟩
  | step prior move inductionHypothesis =>
    obtain ⟨kept, still⟩ := inductionHypothesis
      (Nat.lt_of_le_of_lt move.now_le live) fun event member =>
        unreplaced event (List.mem_append_left _ member)
    refine ⟨?_, by simpa [List.append_assoc] using still.move move⟩
    rcases still.keeps move kept (Nat.lt_of_le_of_lt move.now_le live) with stays | replaced
    · exact stays
    · exact absurd replaced (unreplaced _ (List.mem_append_right _ (List.mem_singleton_self _)))

/-- However callers take turns: a read has the time that it began with, drops nothing that was live
at that time, and answers what it finds stored and live at that time; and an entry that is live
goes only when it is invalidated or stored anew, in one step and in any number of them. -/
theorem keeps_live (idle : ∀ caller, start.turns caller = .idle)
    (runs : Runs start events scene) :
    (∀ caller key reading step next, Moves scene (.reads caller key reading step) next →
      Began (events ++ [.reads caller key reading step]) caller key reading ∧
      ∀ other entry, scene.cache.stored? other = some entry → reading < entry.expires →
        next.cache.stored? other = some entry) ∧
    (∀ event next, Moves scene event next → ∀ key entry,
      scene.cache.stored? key = some entry → scene.now < entry.expires →
        next.cache.stored? key = some entry ∨ event.Replaces key) ∧
    (∀ later final, Runs scene later final → ∀ key entry,
      scene.cache.stored? key = some entry → final.now < entry.expires →
        (∀ event ∈ later, ¬ event.Replaces key) → final.cache.stored? key = some entry) ∧
    (∀ caller key reading value next,
      Moves scene (.reads caller key reading (.answers value)) next →
        ∃ entry, scene.cache.stored? key = some entry ∧ entry.value = value ∧
          reading < entry.expires) := by
  have timely := runs.timely idle
  refine ⟨?_, ?_, ?_, ?_⟩
  · intro caller key reading step next move
    exact ⟨(timely.began move).2, fun other entry => move.spares⟩
  · intro event next move key entry
    exact timely.keeps move
  · intro later final onward key entry found live unreplaced
    exact (timely.keeps_runs onward found live unreplaced).1
  · intro caller key reading value next move
    cases move with
    | answers looking found live => exact ⟨_, found, rfl, by simpa [Stored.live] using live⟩

/-- An entry that expires now, and two callers. -/
def staleScene : Scene Bool Nat where
  now := 60000000000
  cache := (empty (.ofSecs 60)).set 0 "networks:p" 1
  turns _ := .idle

/-- One caller finds the entry expired, the other stores a fresh one, and the first one's drop
leaves it. -/
theorem keeps_live_staleScene :
    (∀ caller, staleScene.turns caller = .idle) ∧
      ∃ events scene next, Runs staleScene events scene ∧
        Moves scene (.reads false "networks:p" 60000000000 .drops) next ∧
        next.cache.stored? "networks:p" = some ⟨2, 120000000000⟩ := by
  have idle : ∀ caller, staleScene.turns caller = .idle := fun _ => rfl
  have taken := Runs.single (Moves.takesTime "networks:p" (idle false))
  have expired := taken.step (Moves.findsExpired (Scene.turns_turn_self _ _ _)
    (stored?_set_self _ _ _ _) (by decide))
  rw [Scene.turn_turn] at expired
  have apart : (staleScene.turn false (.dropping "networks:p" 60000000000)).turns true = .idle :=
    rfl
  obtain ⟨fresh, written⟩ := runs_set apart "networks:p" 2
  have runs := expired.trans written
  refine ⟨idle, _, _, _, runs, .drops rfl, ?_⟩
  exact ((keeps_live idle runs).1 _ _ _ _ _ (.drops rfl)).2 _ _ (stored?_set_self _ _ _ _)
    (by decide)

end Keeping

end Moves

end VmLaunch.Cache
