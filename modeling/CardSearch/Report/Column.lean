import CardSearch.Card.Basic
import CardSearch.Json.Printer
import CardSearch.Text.Line

/-!
# Columns

What a table shows of a card. Text is shown as it stands, in a column its first
line only; a list is shown as its items with commas between them, and everything
else as JSON. A field that is not there leaves its column empty.
-/

namespace CardSearch.Report

/-- A value as it stands: text itself, all else as JSON. -/
def plainText : Json → List Char
  | .string s => s.toList
  | v => v.compact

/-- The value of a field in a column. -/
def fieldText : Option Json → List Char
  | none => []
  | some (.string s) => Text.firstLine s.toList
  | some (.array items) => [',', ' '].intercalate (items.map plainText)
  | some v => v.compact

/-- The column of a field. -/
def columnText (c : Card) (field : String) : List Char := fieldText (c.get? field)

/-- What a card is known by: its field `id`, or without one `_id`. -/
def idText (c : Card) : List Char := (((c.get? "id").or (c.get? "_id")).map plainText).getD []

end CardSearch.Report
