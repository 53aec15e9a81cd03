import CardSearch.Number.Integer
import CardSearch.Report.Style
import CardSearch.Time.Reader
import CardSearch.Time.Timestamp

/-!
# Review labels

The time of a card's next review, told from now: for how many days the card has
been due, or in how many minutes, hours or days it will be, or from thirty days
on at which date. A card without such a time is new, and one whose time is no
instant is shown with the text that it has.
-/

namespace CardSearch.Report

open Number (decimal)
open Time (Instant Date)

/-- When a card is to be reviewed. -/
inductive ReviewLabel where
  | new
  /-- The text of a time that is no instant. -/
  | unclear (s : List Char)
  /-- Due for a number of whole days. -/
  | due (days : Int)
  | inMinutes (n : Int)
  | inHours (n : Int)
  | inDays (n : Int)
  | onDate (d : Date)
deriving DecidableEq, Repr

namespace ReviewLabel

/-- The days from which on a date is told. -/
def farAhead : Int := 30

/-- The label of an instant. -/
def ofInstant (now t : Instant) : ReviewLabel :=
  if t.notAfter now then due (now.daysSince t)
  else if t.hoursSince now < 1 then inMinutes (max (t.minutesSince now) 1)
  else if t.daysSince now < 1 then inHours (t.hoursSince now)
  else if t.daysSince now < farAhead then inDays (t.daysSince now)
  else onDate t.date

/-- The label of a card's next review. -/
def ofText (now : Instant) : Option String → ReviewLabel
  | none => new
  | some s =>
    match Instant.ofString? s with
    | none => unclear s.toList
    | some t => ofInstant now t

/-- The wording of a label. -/
def text : ReviewLabel → List Char
  | new => ['n', 'e', 'w']
  | unclear s => s
  | due 0 => ['d', 'u', 'e']
  | due 1 => "due 1 day ago".toList
  | due n => "due ".toList ++ decimal n ++ " days ago".toList
  | inMinutes n => "in ".toList ++ decimal n ++ ['m']
  | inHours n => "in ".toList ++ decimal n ++ ['h']
  | inDays n => "in ".toList ++ decimal n ++ ['d']
  | onDate d => d.text

/-- The style of a label, if it has one. -/
def style? : ReviewLabel → Option Style
  | new => some .dimmed
  | due _ => some .red
  | inMinutes _ | inHours _ => some .yellow
  | unclear _ | inDays _ | onDate _ => none

/-- The label as it is shown. -/
def shown (styled : Bool) (l : ReviewLabel) : List Char :=
  match l.style? with
  | some style => paint styled style l.text
  | none => l.text

@[simp] theorem shown_false (l : ReviewLabel) : l.shown false = l.text := by
  simp only [shown]
  split <;> simp

end ReviewLabel

end CardSearch.Report
