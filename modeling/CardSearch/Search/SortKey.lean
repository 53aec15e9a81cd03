import CardSearch.Card.Field
import CardSearch.Json.Printer

/-!
# Sort keys

Cards are sorted by one field, whatever it holds: nothing and `false` come
first, then whole numbers by size, then text, then `true`. A list, an object and
a number that is not whole are sorted by their JSON text. Sorting is stable in
both directions: cards with equal keys keep their order also when the direction
is turned round.
-/

namespace CardSearch

inductive SortKey where
  /-- Nothing, null or `false`. -/
  | lowest
  /-- A whole number, rounded to a double. -/
  | number (n : Int)
  | text (s : String)
  /-- The value `true`. -/
  | top
deriving DecidableEq, Repr

namespace SortKey

/-- The place of a kind of key among the kinds. -/
def rank : SortKey → Nat
  | lowest => 0
  | number _ => 1
  | text _ => 2
  | top => 3

/-- The order of keys. -/
def compare : SortKey → SortKey → Ordering
  | number n, number m => Ord.compare n m
  | text s, text t => Ord.compare s t
  | a, b => Ord.compare a.rank b.rank

instance : Ord SortKey := ⟨compare⟩

/-- The order of keys or its reverse. -/
def compareIn (descending : Bool) (a b : SortKey) : Ordering :=
  if descending then (a.compare b).swap else a.compare b

/-- The key of a single value. -/
def ofValue : Json → SortKey
  | .null => lowest
  | .bool b => if b then top else lowest
  | .number (.int n) => number (Number.nearestInt n)
  | .string s => text s
  | v => text v.text

/-- The key of what a field holds. -/
def ofFound : Found → SortKey
  | .absent => lowest
  | .one v => ofValue v
  | .many vs => text (Json.array vs).text

/-- The key of a card for a field. -/
def ofCard (field : List Char) (card : Card) : SortKey := ofFound (card.find field)

end SortKey

namespace Card

/-- The order of two cards by a field. -/
def compareBy (field : List Char) (descending : Bool) (a b : Card) : Ordering :=
  (SortKey.ofCard field a).compareIn descending (SortKey.ofCard field b)

end Card

namespace Search

/-- Sorts by keys that are made once for each item; equal keys keep their order. -/
def sortByKey {α : Type} (key : α → SortKey) (descending : Bool) (items : List α) : List α :=
  let keyed := items.map fun a => (key a, a)
  (keyed.mergeSort fun a b => a.1.compareIn descending b.1 != .gt).map (·.2)

end Search

end CardSearch
