import CardSearch.Card.Path

/-!
# Fields of a card

A field name is a path into the card's own fields and at the same time the key
of a custom field; what both hold is one find. A leading `@` asks for the custom
field alone. The fields that schedule reviews are the card's own only.
-/

namespace CardSearch.Card

/-- What the custom field with a key holds; `*` stands for all values that are searched. -/
def custom (c : Card) (key : List Char) : Found :=
  if key = ['*'] then
    match c.searchableValues? with
    | some vs => .many vs
    | none => .absent
  else
    match c.customField? (String.ofList key) with
    | some v => .ofValue v
    | none => .absent

/-- The fields that no custom field adds to. -/
def unsharedFields : List (List Char) := ["nextReview".toList, "srsLevel".toList]

/-- What a field of the card holds, custom fields of that name included unless left out. -/
def find (c : Card) (field : List Char) (withCustom : Bool := true) : Found :=
  match field with
  | '@' :: key => c.custom key
  | _ =>
    if withCustom && !unsharedFields.contains field then (c.column field).merge (c.custom field)
    else c.column field

end CardSearch.Card
