import CardSearch.Query.Basic
import CardSearch.Text.Distance
import CardSearch.Text.Lowercase

/-!
# Shortcuts

The words that have a meaning of their own after `is:`. Any other word is taken
as the value of a field called `is`, and the reader of the query is told so. When
the word is close to a shortcut, the first of the closest ones is suggested.
-/

namespace CardSearch.Query

open Text

inductive Shortcut where
  | due
  | leech
  | new
  | marked
  | duplicate
  | distinct
deriving DecidableEq, Repr

namespace Shortcut

def name : Shortcut → String
  | due => "due"
  | leech => "leech"
  | new => "new"
  | marked => "marked"
  | duplicate => "duplicate"
  | distinct => "distinct"

/-- All shortcuts, in the order in which they are suggested. -/
def all : List Shortcut := [due, leech, new, marked, duplicate, distinct]

/-- The shortcut of a name; upper and lower case are told apart. -/
def ofName? (s : String) : Option Shortcut := all.find? (·.name == s)

theorem mem_all (s : Shortcut) : s ∈ all := by cases s <;> decide

theorem name_injective {s t : Shortcut} (h : s.name = t.name) : s = t := by
  cases s <;> cases t <;> first | rfl | exact absurd h (by decide)

@[simp] theorem ofName?_name (s : Shortcut) : ofName? s.name = some s := by cases s <;> decide

/-- How far a word may be from a shortcut that is suggested for it. -/
def maxDistance : Nat := 2

/-- How many edits take a word, in lower case, to the name of a shortcut. -/
def distanceFrom (word : String) (s : Shortcut) : Nat :=
  distance (lowercase word.toList) s.name.toList

/-- The first of the shortcuts with the least distance. -/
def closest (word : String) : Shortcut → List Shortcut → Shortcut
  | best, [] => best
  | best, s :: rest =>
    closest word (if s.distanceFrom word < best.distanceFrom word then s else best) rest

/-- The shortcut to suggest for a word that is none. -/
def suggestion? (word : String) : Option Shortcut :=
  let best := closest word due all
  let d := best.distanceFrom word
  if 0 < d ∧ d ≤ maxDistance then some best else none

end Shortcut

/-- What the reader of a query is told about it. -/
inductive Warning where
  /-- A word after `is:` that is not a shortcut, and the one that may be meant. -/
  | unknownShortcut (word : String) (suggestion : Option Shortcut)
deriving DecidableEq, Repr

/-- The wording of a warning. -/
def Warning.message : Warning → String
  | unknownShortcut word none => "unknown is:" ++ word ++ ", matching it as a field"
  | unknownShortcut word (some s) =>
    "unknown is:" ++ word ++ ", matching it as a field; did you mean is:" ++ s.name ++ "?"

end CardSearch.Query
