import CardSearch.Settings.Basic
import CardSearch.Settings.Error
import CardSearch.Store.File
import CardSearch.Text.Line
import CardSearch.Toml.Reader

/-!
# The settings file

Settings are kept as TOML: the version and the card file first, then a table for
searches and one for output. Keys that are not known are passed over, settings
that are not there are left open, and one of the wrong kind spoils the file. A
file of an earlier version is taken as one of this version; one of a later
version is used as it is, with a warning.
-/

namespace CardSearch

namespace SearchSettings

/-- A whole number that is not negative. -/
def natural? : Toml → Option Nat
  | .integer n => if 0 ≤ n then some n.toNat else none
  | _ => none

def boolean? : Toml → Option Bool
  | .boolean b => some b
  | _ => none

def text? : Toml → Option String
  | .text s => some s
  | _ => none

end SearchSettings

namespace Settings

open SearchSettings (natural? boolean? text?)

/-- A setting that may be left open: nothing if it is, no value at all if it is of another kind. -/
def optional? {α : Type} (read? : Toml → Option α) (fields : Toml.Fields) (key : String) :
    Option (Option α) :=
  match fields.lookup key with
  | none => some none
  | some v => (read? v).map some

/--
A group of settings: a table, or an array of at least as many values as there
are keys, which stand in their order. A time is a table without known keys.
-/
def group? (keys : List String) : Toml → Option Toml.Fields
  | .table _ fields | .record fields => some fields
  | .moment => some []
  | .array items => if items.length < keys.length then none else some (keys.zip items)
  | _ => none

/-- A group that may be left out. -/
def optionalGroup? (keys : List String) (fields : Toml.Fields) (key : String) :
    Option Toml.Fields :=
  (optional? (group? keys) fields key).map (·.getD [])

/-- The search settings of a table. -/
def searchOfFields? (fields : Toml.Fields) : Option SearchSettings := do
  some {
    sortBy := ← optional? text? fields "sort_by"
    descending := ← optional? boolean? fields "descending"
    limit := ← optional? natural? fields "limit" }

/-- The number of versions that can be told. -/
def versionCount : Nat := 4294967296

/-- The settings of a file's table. -/
def ofFields? (fields : Toml.Fields) : Option Settings := do
  let version ← optional? (fun v => (natural? v).filter (· < versionCount)) fields "version"
  let output ← optionalGroup? ["color"] fields "output"
  some {
    version := version.getD currentVersion
    cards := ← optional? text? fields "cards"
    search :=
      ← searchOfFields? (← optionalGroup? ["sort_by", "descending", "limit"] fields "search")
    color := ← optional? boolean? output "color" }

/-- Whether the settings were written by a later version. -/
def isNewer (s : Settings) : Bool := currentVersion < s.version

/-- The settings of an earlier version as those of this one. -/
def migrate (s : Settings) : Settings :=
  if s.isNewer then s else { s with version := currentVersion }

/-- The settings of a text. -/
def read? (text : String) : Option Settings :=
  ((Toml.read? text.toList).bind ofFields?).map migrate

/-- The settings of the file at a path; without a file, all settings are open. -/
def load (path : String) : File → Except SettingsError Settings
  | .missing => .ok {}
  | .unreadable => .error (.unreadable path)
  | .text content =>
    match read? content with
    | some s => .ok s
    | none => .error (.malformed path)

/-- What is to be said of settings that have been loaded. -/
def warnings (s : Settings) : List String :=
  if s.isNewer then
    ["config version " ++ String.ofList (Number.digits s.version) ++
      " is newer than supported version " ++ String.ofList (Number.digits currentVersion)]
  else []

/-! ## Writing -/

/-- A line that gives a key its value. -/
def line (key : String) (value : List Char) : List Char := key.toList ++ ' ' :: '=' :: ' ' :: value

/-- The line of a setting, unless it is open. -/
def optionalLine {α : Type} (key : String) (write : α → List Char) (value : Option α) :
    List (List Char) :=
  (value.map fun v => line key (write v)).toList

def booleanText (b : Bool) : List Char := if b then "true".toList else "false".toList

/-- The lines of a settings file. -/
def fileLines (s : Settings) : List (List Char) :=
  [line "version" (Number.digits s.version)] ++
    optionalLine "cards" (fun path => Toml.textLiteral path.toList) s.cards ++
    [[], "[search]".toList] ++
    optionalLine "sort_by" (fun field => Toml.textLiteral field.toList) s.search.sortBy ++
    optionalLine "descending" booleanText s.search.descending ++
    optionalLine "limit" Number.digits s.search.limit ++
    [[], "[output]".toList] ++
    optionalLine "color" booleanText s.color

/-- The settings as a file; a limit beyond 64-bit signed integers cannot be written. -/
def encode (s : Settings) : Except SettingsError String :=
  if s.search.limit.any fun n => Number.maxInt64 < n then .error .unwritable
  else .ok (String.ofList (Text.ofLines s.fileLines))

end Settings

end CardSearch
