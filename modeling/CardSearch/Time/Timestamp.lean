import CardSearch.Number.Integer
import CardSearch.Time.Instant

/-!
# Instants as text

An instant is written in UTC as `YYYY-MM-DDTHH:MM:SSZ`, with a fraction of 3, 6
or 9 digits where the instant has one. A year outside 0 to 9999 carries a sign,
and a leap second is second 60.
-/

namespace CardSearch.Time

open Number (digits padded)

/-- A year: four digits, or a sign and at least four digits. -/
def yearText (y : Int) : List Char :=
  if 0 ≤ y ∧ y ≤ 9999 then padded 4 y.toNat
  else (if y < 0 then '-' else '+') :: padded 4 y.natAbs

/-- A date as `YYYY-MM-DD`. -/
def Date.text (d : Date) : List Char :=
  yearText d.year ++ '-' :: padded 2 d.month ++ '-' :: padded 2 d.day

/-- A fraction of a second, with as few groups of three digits as it needs. -/
def fractionText (nanos : Nat) : List Char :=
  if nanos = 0 then []
  else if nanos % 1000000 = 0 then '.' :: padded 3 (nanos / 1000000)
  else if nanos % 1000 = 0 then '.' :: padded 6 (nanos / 1000)
  else '.' :: padded 9 nanos

/-- The second of the minute, 60 in a leap second. -/
def Instant.secondOfMinute (t : Instant) : Nat :=
  (t.seconds % 60).toNat + if t.isLeap then 1 else 0

/-- The clock time of an instant as `HH:MM:SS` with its fraction. -/
def Instant.clockText (t : Instant) : List Char :=
  let s := t.secondOfDay.toNat
  let nanos := if t.isLeap then t.nanos - nanosPerSecond else t.nanos
  padded 2 (s / 3600) ++ ':' :: padded 2 (s / 60 % 60) ++ ':' :: padded 2 t.secondOfMinute ++
    fractionText nanos

/-- The instant in UTC. -/
def Instant.text (t : Instant) : List Char := t.date.text ++ 'T' :: t.clockText ++ ['Z']

end CardSearch.Time
