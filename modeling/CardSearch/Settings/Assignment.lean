import CardSearch.Number.Integer
import CardSearch.Settings.Basic
import CardSearch.Settings.Error
import CardSearch.Text.Blank
import CardSearch.Text.Lowercase

/-!
# Assignments to settings

A setting is changed by its key and the text of a value. Each key reads the text
in its own way, and an assignment changes the one setting of its key.
-/

namespace CardSearch

/-- What an assignment sets. -/
inductive Assignment where
  | cards (path : String)
  | sortBy (field : String)
  | descending (b : Bool)
  /-- A limit, or none. -/
  | limit (n : Option Nat)
  | color (b : Bool)
deriving DecidableEq, Repr

namespace Assignment

/-- The words for yes and for no. -/
def yesWords : List String := ["true", "yes", "1", "on"]
def noWords : List String := ["false", "no", "0", "off"]

/-- A yes or no in any case. -/
def readYesOrNo (value : String) : Except SettingsError Bool :=
  let word := Text.lowercaseString value
  if yesWords.contains word then .ok true
  else if noWords.contains word then .ok false
  else .error (.notYesOrNo value)

/-- The words for no limit. -/
def unlimitedWords : List String := ["none", "all"]

/-- A limit: a positive number of 64 bits, or a word for none in any case. -/
def readLimit (value : String) : Except SettingsError (Option Nat) :=
  let word := Text.lowercase value.toList
  if unlimitedWords.contains (String.ofList word) then .ok none
  else
    match Number.readWord? word with
    | some (n + 1) => .ok (some (n + 1))
    | _ => .error (.notALimit value)

/-- A field to sort by, which may not be blank. -/
def readOrder (value : String) : Except SettingsError String :=
  if Text.trim value.toList = [] then .error .blankOrder else .ok value

/-- The assignment of a value to a key. -/
def read (key value : String) : Except SettingsError Assignment :=
  match key with
  | "cards" => .ok (cards value)
  | "search.sort_by" => (readOrder value).map sortBy
  | "search.descending" => (readYesOrNo value).map descending
  | "search.limit" => (readLimit value).map limit
  | "output.color" => (readYesOrNo value).map color
  | _ => .error (.unknownKey key)

/-- The settings with the assignment made. -/
def apply (a : Assignment) (s : Settings) : Settings :=
  match a with
  | cards path => { s with cards := some path }
  | sortBy field => { s with search.sortBy := some field }
  | descending b => { s with search.descending := some b }
  | limit n => { s with search.limit := n }
  | color b => { s with color := some b }

end Assignment

namespace Settings

/-- The settings with the value of a key set. -/
def set (key value : String) (s : Settings) : Except SettingsError Settings :=
  (Assignment.read key value).map (·.apply s)

end Settings

end CardSearch
