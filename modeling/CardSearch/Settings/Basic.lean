import CardSearch.Search.Basic

/-!
# Settings

What a user keeps in a settings file: which card file to search, how searches are
sorted and limited when nothing else is asked for, and whether reports are in
colour. Every setting may be left open.
-/

namespace CardSearch

/-- The search settings. -/
structure SearchSettings where
  sortBy : Option String := none
  descending : Option Bool := none
  limit : Option Nat := none
deriving DecidableEq, Repr

structure Settings where
  /-- The version of the file format. -/
  version : Nat := 1
  /-- The path of the card file. -/
  cards : Option String := none
  search : SearchSettings := {}
  /-- Whether reports are in colour. -/
  color : Option Bool := none
deriving DecidableEq, Repr

namespace Settings

/-- The version of the file format that is written. -/
def currentVersion : Nat := 1

end Settings

/-- A search as it is asked for: words of a query, and what goes before the search settings. -/
structure SearchRequest where
  words : List String := []
  sortBy : Option String := none
  descending : Bool := false
  offset : Nat := 0
  limit : Option Nat := none
  /-- Whether all results are wanted. -/
  all : Bool := false
deriving DecidableEq, Repr

/-- The text of a query that is given in words. -/
def joinWords (words : List String) : String := " ".intercalate words

namespace SearchRequest

/-- The options of a search: what the request says, else what the settings say. -/
def options (r : SearchRequest) (s : SearchSettings) : Search.Options :=
  { sortBy := (r.sortBy.or s.sortBy).getD Search.defaultOrder
    descending := r.descending || s.descending.getD false
    offset := r.offset
    limit := if r.all then none else some ((r.limit.or s.limit).getD Search.defaultLimit) }

end SearchRequest

end CardSearch
