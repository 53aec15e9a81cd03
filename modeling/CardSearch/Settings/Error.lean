/-!
# Errors of settings

Why settings cannot be loaded, changed or saved, and the wording of it.
-/

namespace CardSearch

inductive SettingsError where
  /-- The file cannot be read, or is not UTF-8. -/
  | unreadable (path : String)
  /-- The file does not hold settings. -/
  | malformed (path : String)
  /-- There is no place for the file, as there is no home directory. -/
  | noPlace
  | unknownKey (key : String)
  /-- The value is none of the words for yes and no. -/
  | notYesOrNo (value : String)
  /-- The value is neither a positive number nor a word for no limit. -/
  | notALimit (value : String)
  /-- The order is blank. -/
  | blankOrder
  /-- The settings cannot be written down. -/
  | unwritable
  /-- The directory of the file cannot be made. -/
  | noDirectory (path : String)
  /-- The file cannot be saved. -/
  | unsaved (path : String)
deriving DecidableEq, Repr

/-- The keys that may be set. -/
def settingKeys : List String :=
  ["cards", "search.sort_by", "search.descending", "search.limit", "output.color"]

namespace SettingsError

/-- The wording of an error. -/
def message : SettingsError → String
  | unreadable path => "cannot read " ++ path
  | malformed path => "invalid config " ++ path
  | noPlace => "Could not determine config directory"
  | unknownKey key =>
    "Unknown config key '" ++ key ++ "'. Valid keys: " ++ ", ".intercalate settingKeys
  | notYesOrNo value =>
    "expected a boolean (true/false, yes/no, 1/0, on/off), got '" ++ value ++ "'"
  | notALimit value => "expected a positive limit or 'none', got '" ++ value ++ "'"
  | blankOrder => "sort_by cannot be empty"
  | unwritable => "cannot encode config"
  | noDirectory path => "cannot create " ++ path
  | unsaved path => "cannot write " ++ path

end SettingsError

end CardSearch
