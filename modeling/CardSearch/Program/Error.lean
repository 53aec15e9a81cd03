import CardSearch.Query.Basic
import CardSearch.Settings.Error
import CardSearch.Store.Cards

/-!
# Errors of a run

What makes a command fail, with its wording, its code for other programs and the
exit status that goes with it.
-/

namespace CardSearch

inductive RunError where
  | query (e : QueryError)
  /-- The cards of the file at a path cannot be had. -/
  | store (path : String) (e : Store.LoadError)
  /-- There is no place for a card file, as there is no home directory. -/
  | noCards
  | settings (e : SettingsError)
deriving DecidableEq, Repr

namespace RunError

/-- The wording of an error. -/
def message : RunError → String
  | query e => "query error: " ++ e.message
  | store path .unreadable => "card store error: failed to read card file '" ++ path ++ "'"
  | store _ .notCards => "card store error: JSON error: not a list of cards"
  | noCards =>
    "card store error: failed to determine data directory: no valid home directory found"
  | settings e => "configuration error: " ++ e.message

/-- The code of an error. -/
def code : RunError → String
  | query _ => "QUERY_ERROR"
  | store _ _ | noCards => "STORE_ERROR"
  | settings _ => "CONFIG_ERROR"

/-- The exit status after an error. -/
def exitStatus : RunError → Nat
  | query _ => 1
  | store _ _ | noCards | settings _ => 5

end RunError

end CardSearch
