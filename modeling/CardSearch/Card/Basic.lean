import CardSearch.Json.Basic
import CardSearch.Text.Lowercase

/-!
# Cards

A card is a JSON object. Some of its fields are known by name, such as the front
and the deck; `data` may hold a list of custom fields, each with a key and a
value of its own. Entries of that list without a textual key or without a value
are passed over.
-/

namespace CardSearch

structure Card where
  /-- The fields in key order, each key once. -/
  fields : Json.Fields
deriving BEq, Repr

/-- An entry of a card's list of custom fields. -/
structure CustomField where
  key : String
  value : Json
deriving BEq, Repr

namespace CustomField

/-- The custom field that an entry of the list stands for. -/
def ofJson? (entry : Json) : Option CustomField :=
  (entry.field? "key").bind fun key =>
    key.string?.bind fun key => (entry.field? "value").map fun value => ⟨key, value⟩

/-- The mark at the start of a value that a search over all custom fields passes over. -/
def hiddenMark : List Char := "@nosearch\n".toList

/-- Whether a value is text without the mark. -/
def isSearchable (v : Json) : Bool :=
  v.string?.any fun s => !hiddenMark.isPrefixOf s.toList

end CustomField

namespace Card

/-- The card of a JSON value; only objects are cards. -/
def ofJson? (v : Json) : Option Card := v.sorted.object?.map Card.mk

def json (c : Card) : Json := .object c.fields

/-- The value of a field; null counts as none. -/
def get? (c : Card) (key : String) : Option Json := (c.fields.lookup key).filter (!·.isNull)

/-- The value of a field that holds text. -/
def string? (c : Card) (key : String) : Option String := (c.get? key).bind (·.string?)

theorem string?_eq_some_iff {card : Card} {key s : String} :
    card.string? key = some s ↔ card.fields.lookup key = some (.string s) := by
  unfold string? get?
  cases card.fields.lookup key with
  | none => exact ⟨nofun, nofun⟩
  | some v =>
      cases v with
      | string t =>
          show some t = some s ↔ some (Json.string t) = some (.string s)
          rw [Option.some_inj, Option.some_inj, Json.string.injEq]
      | _ => exact ⟨nofun, nofun⟩

/-- The custom fields in order, if the card has a list of them at all. -/
def customFields? (c : Card) : Option (List CustomField) :=
  (c.fields.lookup "data").bind fun data =>
    data.array?.map fun entries => entries.filterMap CustomField.ofJson?

/-- The value of the first custom field with the key, case aside. -/
def customField? (c : Card) (key : String) : Option Json :=
  c.customFields?.bind fun entries =>
    (entries.find? fun f => Text.lowercaseString f.key = Text.lowercaseString key).map (·.value)

/-- The values that a search over all custom fields sees. -/
def searchableValues? (c : Card) : Option (List Json) :=
  c.customFields?.map fun entries => (entries.map (·.value)).filter CustomField.isSearchable

end Card

end CardSearch
