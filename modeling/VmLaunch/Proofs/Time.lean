import VmLaunch.Launch.Operation
import VmLaunch.Proofs.Catalog.Cache
import VmLaunch.Settings.Basic

/-!
# How long a duration can be

A duration that fits the milliseconds of sixty-four signed bits is used as it is, and only a
longer one is cut to a hundred years. So a duration between the two is `Overlong`: it counts for
more than a hundred years and for more than every longer duration that is cut, and the point in
time that it leads to may lie beyond the last one that there is.
-/

namespace VmLaunch

/-- The days of the Gregorian calendar before a year, counted from the year 1 on. -/
def daysBefore (year : Nat) : Nat :=
  let past := year - 1
  365 * past + past / 4 - past / 100 + past / 400

/-- The beginning of a year in nanoseconds since 1970. -/
def yearStart (year : Nat) : Nat :=
  (daysBefore year - daysBefore 1970) * (24 * 60 * 60) * 1000000000

example : yearStart 2000 = 946684800 * 1000000000 := by decide

/-- The last point in time, at the end of the year 262142. -/
def lastMoment : Nat :=
  yearStart 262143 - 1

namespace Duration

/-- Longer than a hundred years without being cut to them. -/
def Overlong (d : Duration) : Prop :=
  century.nanos < d.nanos ∧ d.nanos ≤ longest.nanos

instance (d : Duration) : Decidable d.Overlong :=
  inferInstanceAs (Decidable (_ ∧ _))

/-- Used as it is, although less time than that is left from now on. -/
def Endless (d : Duration) (now : Nat) : Prop :=
  lastMoment - now < d.nanos ∧ d.nanos ≤ longest.nanos

instance (d : Duration) (now : Nat) : Decidable (d.Endless now) :=
  inferInstanceAs (Decidable (_ ∧ _))

/-- The duration that stands for overlong ones is not overlong itself. -/
theorem century_le_longest : century.nanos ≤ longest.nanos := by decide

/-- A duration counts for itself up to the longest that is used as it is, else for a hundred
years. -/
theorem nanos_span (d : Duration) :
    d.span.nanos = if d.nanos ≤ longest.nanos then d.nanos else century.nanos := by
  unfold span
  split <;> rfl

/-- Exactly the overlong durations count for more than a hundred years. -/
theorem span_eq_min_iff (d : Duration) :
    d.span.nanos = min d.nanos century.nanos ↔ ¬ d.Overlong := by
  have within := century_le_longest
  rw [nanos_span, Overlong]
  split <;> omega

/-- A longer duration counts for at least as much, unless it is cut and the other is overlong. -/
theorem span_le_span_iff {short long : Duration} (longer : short.nanos ≤ long.nanos) :
    short.span.nanos ≤ long.span.nanos ↔ ¬ (short.Overlong ∧ longest.nanos < long.nanos) := by
  have within := century_le_longest
  rw [nanos_span, nanos_span, Overlong]
  split <;> split <;> omega

/-- A longer duration ends no earlier, except where it alone is cut to a century. -/
theorem after_le_after_iff {short long : Duration} (longer : short.nanos ≤ long.nanos)
    (now : Nat) :
    short.after now ≤ long.after now ↔ ¬ (short.Overlong ∧ longest.nanos < long.nanos) :=
  Nat.add_le_add_iff_left.trans (span_le_span_iff longer)

/-- Up to the year 200000 there is time for every duration but those that are used as they are
and are longer than what is left. -/
theorem after_le_lastMoment_iff {now : Nat} (early : now < yearStart 200001) (d : Duration) :
    d.after now ≤ lastMoment ↔ ¬ d.Endless now := by
  have roomy : yearStart 200001 + century.nanos ≤ lastMoment := by decide
  rw [after, nanos_span, Endless]
  split <;> omega

end Duration

/-- When a wait that begins now gives up. -/
def Polling.deadline (polling : Polling) (now : Nat) : Nat :=
  polling.timeout.after now

/-- What comes of durations that are added to a point in time: to keep values in a cache, or to
wait. -/
structure Additions (α : Type) (now : Nat) : Prop where
  /-- A duration counts for at most a hundred years, unless it is overlong. -/
  cut : ∀ d : Duration, d.span.nanos = min d.nanos Duration.century.nanos ↔ ¬ d.Overlong
  /-- A longer duration counts for at least as much, unless it is cut and the other is not. -/
  ordered : ∀ short long : Duration, short.nanos ≤ long.nanos →
    (short.span.nanos ≤ long.span.nanos ↔
      ¬ (short.Overlong ∧ Duration.longest.nanos < long.nanos))
  /-- A value that is stored now expires at a time that there is, unless its time is endless. -/
  expires : ∀ (cache : Cache α) (key : String) (value : α),
    (cache.set now key value).stored? key = some ⟨value, cache.expiry now⟩ ∧
      (cache.expiry now ≤ lastMoment ↔ ¬ cache.ttl.Endless now)
  /-- A wait that begins now gives up at a time that there is, unless its timeout is endless. -/
  givesUp : ∀ (env : Environment) (polling : Polling) (scope : Scope) (operation : String)
      (signal : Signal) (world : World), world.now = now →
    polling.wait env scope operation signal world =
        polling.rounds env scope operation signal (polling.deadline now) env.patience world ∧
      (polling.deadline now ≤ lastMoment ↔ ¬ polling.timeout.Endless now)
  /-- A value that is kept for longer expires no sooner, unless its time is cut and the other is
  not. -/
  expiresLater : ∀ short long : Cache α, short.ttl.nanos ≤ long.ttl.nanos →
    (short.expiry now ≤ long.expiry now ↔
      ¬ (short.ttl.Overlong ∧ Duration.longest.nanos < long.ttl.nanos))
  /-- A wait with a longer timeout gives up no sooner, unless the timeout is cut and the other is
  not. -/
  givesUpLater : ∀ short long : Polling, short.timeout.nanos ≤ long.timeout.nanos →
    (short.deadline now ≤ long.deadline now ↔
      ¬ (short.timeout.Overlong ∧ Duration.longest.nanos < long.timeout.nanos))

/-- Durations count for at most a hundred years, keep their order and lead to points in time that
there are, but for those that are long enough to be cut and are not. -/
theorem additions_of_early (α : Type) {now : Nat} (early : now < yearStart 200001) :
    Additions α now where
  cut := Duration.span_eq_min_iff
  ordered _ _ := Duration.span_le_span_iff
  expires cache key value :=
    ⟨Cache.stored?_set_self cache now key value,
      Duration.after_le_lastMoment_iff early cache.ttl⟩
  givesUp env polling scope operation signal world begins := by
    subst begins
    exact ⟨rfl, Duration.after_le_lastMoment_iff early polling.timeout⟩
  expiresLater _ _ longer := Duration.after_le_after_iff longer now
  givesUpLater _ _ longer := Duration.after_le_after_iff longer now

/-- In the year 2000 there is time for a TTL of three hundred years, though it is overlong. -/
theorem additions_of_early_threeCenturies :
    yearStart 2000 < yearStart 200001 ∧
      (Duration.ofSecs (3 * 36500 * 24 * 60 * 60)).Overlong ∧
      (Cache.empty (.ofSecs (3 * 36500 * 24 * 60 * 60)) : Cache Unit).expiry (yearStart 2000) ≤
        lastMoment := by
  have early : yearStart 2000 < yearStart 200001 := by decide
  refine ⟨early, by decide, ?_⟩
  exact ((additions_of_early Unit early).expires _ "key" ()).2.mpr (by decide)

/-- Settings may ask for a TTL that counts for more than a hundred years, for two TTLs of which
the longer expires sooner, and for one that leads beyond the last point in time. -/
theorem not_always_cut :
    (Settings.cacheDuration { cacheTtl := 3153600001 }).span.nanos ≠
        min (Settings.cacheDuration { cacheTtl := 3153600001 }).nanos Duration.century.nanos ∧
      ¬ (Settings.cacheDuration { cacheTtl := 9223372036854775 }).after 0 ≤
        (Settings.cacheDuration { cacheTtl := 9223372036854776 }).after 0 ∧
      ¬ (Settings.timeoutDuration { pollTimeout := 10000000000000 }).after 0 ≤ lastMoment := by
  decide

end VmLaunch
