/-!
# Durations

Time is counted in nanoseconds. A duration that is added to a point in time must
fit the milliseconds of sixty-four signed bits; a longer one counts as a hundred
years.
-/

namespace VmLaunch

/-- A length of time in nanoseconds. -/
structure Duration where
  nanos : Nat
  deriving DecidableEq, Inhabited

namespace Duration

/-- A number of milliseconds. -/
def ofMillis (n : Nat) : Duration :=
  ⟨n * 1000000⟩

/-- A number of seconds. -/
def ofSecs (n : Nat) : Duration :=
  ofMillis (n * 1000)

/-- The longest duration that is used as it is. -/
def longest : Duration :=
  ofMillis 0x7FFFFFFFFFFFFFFF

/-- A hundred years of 365 days. -/
def century : Duration :=
  ofSecs (36500 * 24 * 60 * 60)

/-- The duration that is added to a point in time. -/
def span (d : Duration) : Duration :=
  if d.nanos ≤ longest.nanos then d else century

/-- A duration of a century at most is used as it is. -/
theorem span_of_le_century {d : Duration} (short : d.nanos ≤ century.nanos) : d.span = d := by
  have within : century.nanos ≤ longest.nanos := by decide
  rw [span, if_pos (Nat.le_trans short within)]

/-- The point in time a duration after another. -/
def after (now : Nat) (d : Duration) : Nat :=
  now + d.span.nanos

end Duration

end VmLaunch
