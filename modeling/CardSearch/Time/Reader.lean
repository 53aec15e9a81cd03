import CardSearch.Number.Integer
import CardSearch.Text.Blank
import CardSearch.Time.Instant

/-!
# Reading instants

Cards tell instants in several ways. RFC 3339 with an offset is tried first, then
date and time without an offset, then a date alone; the last two are in UTC. The
forms without an offset are lenient: blanks may stand before a number, a number
may have fewer digits than its field, and a year may carry a sign and then have
any number of digits.
-/

namespace CardSearch.Time

open CardSearch.Text
open Number (ofDigits)

/-- The fields of a date and time as read, whether or not they exist. -/
structure Parts where
  year : Int := 0
  month : Nat := 1
  day : Nat := 1
  hour : Nat := 0
  minute : Nat := 0
  second : Nat := 0
  nanos : Nat := 0
deriving DecidableEq, Repr

namespace Parts

def date (p : Parts) : Date := ⟨p.year, p.month, p.day⟩

/-- Second 60 is the leap second, in whichever minute it is claimed. -/
def isLeap (p : Parts) : Bool := p.second == 60

/-- Seconds from 1970-01-01 in UTC, a leap second counting as the second before it. -/
def epochSeconds (p : Parts) (offsetMinutes : Int) : Int :=
  p.date.dayNumber * secondsPerDay + p.hour * 3600 + p.minute * 60 + min p.second 59 -
    offsetMinutes * 60

/-- The instant that the fields tell at an offset from UTC. -/
def instant? (p : Parts) (offsetMinutes : Int) : Option Instant :=
  if h : p.nanos < nanosPerSecond then
    if p.date.isValid && p.date.isInRange && p.hour ≤ 23 && p.minute ≤ 59 && p.second ≤ 60 then
      if hleap : p.isLeap then
        some ⟨p.epochSeconds offsetMinutes, p.nanos + nanosPerSecond, by
          right
          simp only [isLeap, beq_iff_eq] at hleap
          simp only [epochSeconds, secondsPerDay, nanosPerSecond, hleap] at *
          omega⟩
      else some ⟨p.epochSeconds offsetMinutes, p.nanos, .inl h⟩
    else none
  else none

end Parts

/-- A number of `least` to `most` digits, as many as there are. -/
def takeNumber? (least most : Nat) (s : List Char) : Option (Nat × List Char) :=
  let ds := (s.take most).takeWhile Char.isDigit
  if least ≤ ds.length then some (ofDigits ds, s.drop ds.length) else none

/-- Digits after a point, of which the first nine count. -/
def takeFraction? (s : List Char) : Option (Nat × List Char) :=
  let ds := s.takeWhile Char.isDigit
  let used := ds.take 9
  if ds.isEmpty then none
  else some (ofDigits used * Nat.pow 10 (9 - used.length), s.drop ds.length)

/-- The next character, if it is the one expected. -/
def expect? (c : Char) : List Char → Option (List Char)
  | d :: rest => if c = d then some rest else none
  | [] => none

/-- A fraction of a second, if a point follows. -/
def takeOptionalFraction? : List Char → Option (Nat × List Char)
  | '.' :: rest => takeFraction? rest
  | s => some (0, s)

/-- What stands between a date and a time. -/
def takeDateEnd? : List Char → Option (List Char)
  | 'T' :: rest | 't' :: rest | ' ' :: rest => some rest
  | _ => none

/-- An offset from UTC in minutes: `Z`, or a sign, two digits, a colon and two digits. -/
def takeOffset? : List Char → Option (Int × List Char)
  | 'Z' :: rest | 'z' :: rest => some (0, rest)
  | sign :: rest =>
    if sign = '+' ∨ sign = '-' ∨ sign = '\u2212' then do
      let (hours, rest) ← takeNumber? 2 2 rest
      let rest ← expect? ':' rest
      let (minutes, rest) ← takeNumber? 2 2 rest
      let offset : Int := hours * 60 + minutes
      if hours ≤ 23 ∧ minutes ≤ 59 then some (if sign = '+' then offset else -offset, rest)
      else none
    else none
  | [] => none

/-- A date and time with an offset, as in RFC 3339. -/
def readWithOffset? (s : List Char) : Option Instant := do
  let (year, s) ← takeNumber? 4 4 s
  let s ← expect? '-' s
  let (month, s) ← takeNumber? 2 2 s
  let s ← expect? '-' s
  let (day, s) ← takeNumber? 2 2 s
  let s ← takeDateEnd? s
  let (hour, s) ← takeNumber? 2 2 s
  let s ← expect? ':' s
  let (minute, s) ← takeNumber? 2 2 s
  let s ← expect? ':' s
  let (second, s) ← takeNumber? 2 2 s
  let (nanos, s) ← takeOptionalFraction? s
  let (offset, s) ← takeOffset? s
  if s.isEmpty then Parts.instant? ⟨year, month, day, hour, minute, second, nanos⟩ offset else none

/-- A field of a layout. -/
inductive LayoutItem where
  /-- A year, with an optional sign. -/
  | year
  /-- A number of at most two digits, and the field it fills. -/
  | number (fill : Parts → Nat → Parts)
  /-- A character that stands as it is. -/
  | mark (c : Char)
  /-- Any number of blanks. -/
  | gap
  /-- A fraction of a second, if a point follows. -/
  | fraction

/-- A year: up to four digits, or a sign and any number of digits. -/
def takeYear? : List Char → Option (Int × List Char)
  | '-' :: rest => (takeNumber? 1 rest.length rest).map fun (n, rest) => (-(n : Int), rest)
  | '+' :: rest => (takeNumber? 1 rest.length rest).map fun (n, rest) => ((n : Int), rest)
  | s => (takeNumber? 1 4 s).map fun (n, rest) => ((n : Int), rest)

/-- One field of a layout, read into the parts. -/
def LayoutItem.take? (item : LayoutItem) (p : Parts) (s : List Char) : Option (Parts × List Char) :=
  match item with
  | year => (takeYear? (trimStart s)).map fun (y, rest) => ({ p with year := y }, rest)
  | number fill => (takeNumber? 1 2 (trimStart s)).map fun (n, rest) => (fill p n, rest)
  | mark c => (expect? c s).map (p, ·)
  | gap => some (p, trimStart s)
  | fraction => (takeOptionalFraction? s).map fun (n, rest) => ({ p with nanos := n }, rest)

abbrev Layout := List LayoutItem

namespace Layout

/-- The fields of a layout, one after the other. -/
def take? : Layout → Parts → List Char → Option (Parts × List Char)
  | [], p, s => some (p, s)
  | item :: rest, p, s => (item.take? p s).bind fun (p, s) => take? rest p s

/-- The parts of a text that the layout covers to its end. -/
def read? (layout : Layout) (s : List Char) : Option Parts :=
  match layout.take? {} s with
  | some (p, []) => some p
  | _ => none

def month : LayoutItem := .number fun p n => { p with month := n }
def day : LayoutItem := .number fun p n => { p with day := n }
def hour : LayoutItem := .number fun p n => { p with hour := n }
def minute : LayoutItem := .number fun p n => { p with minute := n }
def second : LayoutItem := .number fun p n => { p with second := n }

/-- Year, month and day with dashes between them. -/
def date : Layout := [.year, .mark '-', month, .mark '-', day]

/-- Hour and minute with a colon between them. -/
def clock : Layout := [hour, .mark ':', minute]

/-- Hour, minute and second, and a fraction. -/
def exactClock : Layout := clock ++ [.mark ':', second, .fraction]

/-- The layouts of a date and time without an offset, in the order in which they are tried. -/
def dateTimes : List Layout :=
  [date ++ .mark 'T' :: exactClock, date ++ .gap :: exactClock,
   date ++ .mark 'T' :: clock, date ++ .gap :: clock]

/-- All layouts without an offset; a date alone is its first moment. -/
def all : List Layout := dateTimes ++ [date]

/-- The instant that the layout tells, in UTC. -/
def readInstant? (s : List Char) (layout : Layout) : Option Instant :=
  (layout.read? s).bind (·.instant? 0)

end Layout

/-- The instant that a text tells, blanks around it aside. -/
def readInstant? (s : List Char) : Option Instant :=
  let s := trim s
  (readWithOffset? s).or (Layout.all.findSome? (Layout.readInstant? s))

/-- The instant that a string tells. -/
def Instant.ofString? (s : String) : Option Instant := readInstant? s.toList

end CardSearch.Time
