import CardSearch.Card.Basic
import CardSearch.Query.Basic

/-!
# Candidates

A store is a list of cards, and a row is a card with its position there. A query
may ask for rows that are chosen by comparing cards with each other, before any
condition is looked at: those whose front another row has too, or the first row
of each note.
-/

namespace CardSearch

/-- A card and its position in the store. -/
structure Row where
  position : Nat
  card : Card
deriving BEq, Repr

namespace Row

/-- The rows of a list of cards. -/
def ofCards (cards : List Card) : List Row := cards.zipIdx.map fun (card, i) => ⟨i, card⟩

/-- The front, if it is text. -/
def front? (r : Row) : Option String := r.card.string? "front"

/-- What tells the note of a card: its key, or without one its front. -/
def note? (r : Row) : Option String := (r.card.string? "key").or r.front?

end Row

namespace Selection

/-- The rows whose front another row has too. -/
def duplicates (rows : List Row) : List Row :=
  let fronts := rows.filterMap (·.front?)
  rows.filter fun r => r.front?.any fun front => 1 < fronts.count front

/-- The first row of each note that has not been seen; rows without a note are kept. -/
def distinctFrom (seen : List String) : List Row → List Row
  | [] => []
  | r :: rest =>
    match r.note? with
    | none => r :: distinctFrom seen rest
    | some note =>
      if seen.contains note then distinctFrom seen rest else r :: distinctFrom (note :: seen) rest

/-- The first row of each note. -/
def distincts (rows : List Row) : List Row := distinctFrom [] rows

/-- The rows that a selection leaves. -/
def candidates (selection : Option Selection) (rows : List Row) : List Row :=
  match selection with
  | none => rows
  | some .duplicate => duplicates rows
  | some .distinct => distincts rows

theorem duplicates_sublist (rows : List Row) : (duplicates rows).Sublist rows :=
  List.filter_sublist

theorem distinctFrom_sublist (seen : List String) (rows : List Row) :
    (distinctFrom seen rows).Sublist rows := by
  induction rows generalizing seen with
  | nil => simp [distinctFrom]
  | cons r rest ih =>
    simp only [distinctFrom]
    split
    · exact (ih seen).cons_cons r
    · split
      · exact (ih seen).cons r
      · exact (ih _).cons_cons r

/-- A selection takes rows away and leaves the others in order. -/
theorem candidates_sublist (selection : Option Selection) (rows : List Row) :
    (candidates selection rows).Sublist rows := by
  match selection with
  | none => exact List.Sublist.refl rows
  | some .duplicate => exact duplicates_sublist rows
  | some .distinct => exact distinctFrom_sublist [] rows

end Selection

end CardSearch
