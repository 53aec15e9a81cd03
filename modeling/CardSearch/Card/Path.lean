import CardSearch.Card.Basic
import CardSearch.Card.Found
import CardSearch.Number.Integer
import CardSearch.Text.Blank
import CardSearch.Text.Parts

/-!
# Paths into a card

A path is a list of segments with points between them. The walk along it begins
at the card and takes one segment after the other: a key of an object, `*` for
all its values, a position in a list, counted from the end when negative. A
single value ends the walk, whatever segments are left. As the walk is a fold,
the walk along two paths in a row is the second walk from the end of the first.
-/

namespace CardSearch

open Text (trim parts)

/-- Where a walk has got to. -/
inductive Place where
  /-- At a value. -/
  | value (v : Json)
  /-- At all values of an object. -/
  | fan (vs : List Json)
  /-- At a key that the object does not have; such a place is like an object without keys. -/
  | missing
  /-- At the end: no further segment leads elsewhere. -/
  | ended (f : Found)
deriving BEq, Repr

namespace Place

/-- The place of an item that may not be there. -/
def ofItem? : Option Json → Place
  | some v => value v
  | none => ended .absent

/-- The segment that stands for all values of an object. -/
def everyKey : List Char := ['*']

/-- The item at the position that a segment tells. -/
def item? (items : List Json) (segment : List Char) : Option Json :=
  (Number.readInt64? (trim segment)).bind fun i =>
    let position := if i < 0 then items.length + i else i
    if 0 ≤ position then items[position.toNat]? else none

/-- The place that a segment leads to from the fields of an object. -/
def ofField (fields : Json.Fields) (segment : List Char) : Place :=
  if segment = everyKey then fan (fields.map (·.2))
  else match fields.lookup (String.ofList segment) with
    | some v => value v
    | none => missing

/-- One segment further. -/
def step : Place → List Char → Place
  | value (.object fields), segment => ofField fields segment
  | value (.array items), segment => ofItem? (item? items segment)
  | value v, _ => ended (.ofValue v)
  | fan vs, segment => ofItem? (item? vs segment)
  | missing, segment => if segment = everyKey then fan [] else missing
  | ended f, _ => ended f

/-- A number of segments further. -/
def walk (from_ : Place) (segments : List (List Char)) : Place := segments.foldl step from_

/-- What is found at the place. -/
def found : Place → Found
  | value v => .ofValue v
  | fan vs => .many vs
  | missing => .absent
  | ended f => f

@[simp] theorem walk_nil (p : Place) : p.walk [] = p := rfl

@[simp] theorem walk_cons (p : Place) (segment : List Char) (rest : List (List Char)) :
    p.walk (segment :: rest) = (p.step segment).walk rest := rfl

theorem walk_append (p : Place) (first second : List (List Char)) :
    p.walk (first ++ second) = (p.walk first).walk second := by
  simp [walk]

/-- A walk that has ended stays where it is. -/
@[simp] theorem walk_ended (f : Found) (segments : List (List Char)) :
    (ended f).walk segments = ended f := by
  induction segments with
  | nil => rfl
  | cons segment rest ih => simpa [step] using ih

end Place

namespace Card

/-- Where the walk along a path ends. -/
def place (c : Card) (path : List Char) : Place := (Place.value c.json).walk (parts '.' path)

/-- What the card's own fields hold at a path. -/
def column (c : Card) (path : List Char) : Found := (c.place path).found

/-- A name without a point is a key of the card. -/
theorem column_of_key {card : Card} {key : List Char} (hpoint : '.' ∉ key)
    (hkey : key ≠ Place.everyKey) :
    card.column key =
      ((card.fields.lookup (String.ofList key)).map Found.ofValue).getD .absent := by
  rw [column, place, Text.parts_eq_singleton hpoint, Place.walk_cons, Place.walk_nil]
  show (Place.ofField card.fields key).found = _
  rw [Place.ofField, if_neg hkey]
  cases card.fields.lookup (String.ofList key) with
  | none => rfl
  | some v => rfl

/-- The walk along a path that goes on is a walk from the end of its first part. -/
theorem place_append (c : Card) (first second : List Char) :
    c.place (first ++ '.' :: second) = (c.place first).walk (parts '.' second) := by
  simp [place, Text.parts_append_mark, Place.walk_append]

end Card

end CardSearch
