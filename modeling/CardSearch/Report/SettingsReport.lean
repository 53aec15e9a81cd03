import CardSearch.Json.Printer
import CardSearch.Number.Integer
import CardSearch.Report.Style
import CardSearch.Settings.Basic
import CardSearch.Text.Line

/-!
# Settings in reports

The settings as JSON, with the keys in order, and as lines for reading.
-/

namespace CardSearch

namespace Settings

/-- The field of a setting, unless it is open. -/
def optionalField {α : Type} (key : String) (encode : α → Json) (value : Option α) : Json.Fields :=
  (value.map fun v => (key, encode v)).toList

/-- A number in JSON. -/
def numberJson (n : Nat) : Json := .number (.int n)

def json (s : Settings) : Json :=
  .object (optionalField "cards" .string s.cards ++
    [("output", .object (optionalField "color" .bool s.color)),
     ("search", .object (optionalField "descending" .bool s.search.descending ++
       optionalField "limit" numberJson s.search.limit ++
       optionalField "sort_by" .string s.search.sortBy)),
     ("version", numberJson s.version)])

end Settings

namespace Report

/-- Yes and no as words. -/
def boolText (b : Bool) : String := if b then "true" else "false"

/-- The line of a setting, unless it is open. -/
def settingLine (label : String) (value : Option String) : List String :=
  (value.map fun v => label ++ ": " ++ v).toList

/-- The heading of the settings. -/
def settingsHeading (styled : Bool) : String :=
  String.ofList (paint styled .bold (paint styled .green "Configuration".toList))

/-- A number as a string. -/
def numberText (n : Nat) : String := String.ofList (Number.digits n)

/-- The settings of a file that is there. -/
def settingLines (s : Settings) : List String :=
  settingLine "cards" s.cards ++
    ["", "[search]"] ++
    settingLine "  sort_by" s.search.sortBy ++
    settingLine "  descending" (s.search.descending.map boolText) ++
    settingLine "  limit" (s.search.limit.map numberText) ++
    ["", "[output]"] ++
    settingLine "  color" (s.color.map boolText)

/-- The lines of the settings file at a path. -/
def settingsLines (styled : Bool) (path : String) (isPresent : Bool) (s : Settings) : List String :=
  [settingsHeading styled, "", "File: " ++ path, "Exists: " ++ boolText isPresent, ""] ++
    if isPresent then settingLines s
    else ["(No config file exists. Run 'rq config set <key> <value>' to create one.)"]

end Report

end CardSearch
