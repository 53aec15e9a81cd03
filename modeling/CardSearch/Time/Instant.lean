import CardSearch.Time.Calendar

/-!
# Instants

An instant is a second counted from 1970-01-01T00:00:00 UTC and a part of it in
nanoseconds. A leap second has no number of its own: it is the second before it,
with a part of a whole second and more, so that the order by second and then by
part is the order in time. Instants are added to and subtracted as if each day
had 86400 seconds; only an instant inside a leap second is told apart.
-/

namespace CardSearch.Time

/-- Nanoseconds in a second, and seconds in a day. -/
def nanosPerSecond : Nat := 1000000000
def secondsPerDay : Int := 86400

structure Instant where
  seconds : Int
  nanos : Nat
  /-- A part beyond one second is found in the last second of a minute only. -/
  nanos_lt : nanos < nanosPerSecond ∨ nanos < 2 * nanosPerSecond ∧ seconds % 60 = 59
deriving DecidableEq, Repr

namespace Instant

/-- Whether the instant lies inside a leap second. -/
def isLeap (t : Instant) : Bool := nanosPerSecond ≤ t.nanos

/-- The instant that begins a second. -/
def ofSeconds (n : Int) : Instant := ⟨n, 0, .inl (by decide)⟩

/-- The instant a number of nanoseconds after the first one. -/
def ofNanos (n : Int) : Instant :=
  ⟨n / nanosPerSecond, (n % nanosPerSecond).toNat, .inl (by simp only [nanosPerSecond]; omega)⟩

/-- The day of the instant and the second in that day. -/
def dayNumber (t : Instant) : Int := t.seconds / secondsPerDay
def secondOfDay (t : Instant) : Int := t.seconds % secondsPerDay

def date (t : Instant) : Date := Date.ofDayNumber t.dayNumber

/-- By second, then by part. -/
def compare (a b : Instant) : Ordering :=
  (Ord.compare a.seconds b.seconds).then (Ord.compare a.nanos b.nanos)

instance : Ord Instant := ⟨compare⟩

/-- Whether the first instant is not after the second. -/
def notAfter (a b : Instant) : Bool :=
  a.seconds < b.seconds || a.seconds == b.seconds && a.nanos ≤ b.nanos

/--
A number of seconds later, or earlier if negative. A step of at least a second
leaves a leap second: forward it counts as the second before, backward as the
second after.
-/
def shift (t : Instant) (by_ : Int) : Instant :=
  if h : t.nanos < nanosPerSecond then ⟨t.seconds + by_, t.nanos, .inl h⟩
  else
    have hpart : t.nanos - nanosPerSecond < nanosPerSecond := by
      have := t.nanos_lt
      simp only [nanosPerSecond] at *
      omega
    if by_ = 0 then t
    else if 0 < by_ then ⟨t.seconds + by_, t.nanos - nanosPerSecond, .inl hpart⟩
    else ⟨t.seconds + 1 + by_, t.nanos - nanosPerSecond, .inl hpart⟩

/-- The shifted instant, when its year can be told. -/
def add? (t : Instant) (seconds : Int) : Option Instant :=
  let u := t.shift seconds
  if u.date.isInRange then some u else none

/--
Nanoseconds from the second instant to the first. A leap second between the two
counts when the clock times of the two days enclose it.
-/
def nanosSince (a b : Instant) : Int :=
  let clock := a.secondOfDay - b.secondOfDay
  let leap : Int :=
    if b.secondOfDay < a.secondOfDay ∧ b.isLeap then 1
    else if a.secondOfDay < b.secondOfDay ∧ a.isLeap then -1
    else 0
  ((a.dayNumber - b.dayNumber) * secondsPerDay + clock + leap) * nanosPerSecond +
    ((a.nanos : Int) - b.nanos)

/-- Whole seconds, minutes, hours and days from the second instant to the first. -/
def secondsSince (a b : Instant) : Int := (a.nanosSince b).tdiv nanosPerSecond
def minutesSince (a b : Instant) : Int := (a.secondsSince b).tdiv 60
def hoursSince (a b : Instant) : Int := (a.secondsSince b).tdiv 3600
def daysSince (a b : Instant) : Int := (a.secondsSince b).tdiv secondsPerDay

theorem notAfter_eq_true_iff {a b : Instant} :
    a.notAfter b = true ↔ a.seconds < b.seconds ∨ a.seconds = b.seconds ∧ a.nanos ≤ b.nanos := by
  simp [notAfter]

theorem compare_eq_gt_iff {a b : Instant} :
    compare a b = .gt ↔ b.seconds < a.seconds ∨ a.seconds = b.seconds ∧ b.nanos < a.nanos := by
  rw [compare, Ordering.then_eq_gt, Int.compare_eq_gt, Int.compare_eq_eq, Nat.compare_eq_gt]

/-- An instant that is not after another one does not come after it in order. -/
theorem compare_ne_gt_iff {a b : Instant} : compare a b ≠ .gt ↔ a.notAfter b = true := by
  rw [ne_eq, compare_eq_gt_iff, notAfter_eq_true_iff]
  omega

end Instant

end CardSearch.Time
