/-!
# TOML values and tables

A TOML file is a table whose entries are written one by one, in places that
headers and dotted keys tell. What may still be added to a table depends on how
it was begun: once by a header, as often as wanted by dotted keys, and freely
while only headers of tables below it have been seen. A value in braces is
complete as it stands, and no key is given twice.
-/

namespace CardSearch

/-- How a table came to be. -/
inductive Toml.Origin where
  /-- By a header of its own. -/
  | header
  /-- By the header of a table below it. -/
  | implied
  /-- By a dotted key. -/
  | dotted
deriving DecidableEq, Repr

/-- An entry of a table. Of fractions and times nothing is kept but that they are such. -/
inductive Toml where
  | text (s : String)
  | integer (n : Int)
  | boolean (b : Bool)
  | fraction
  | moment
  | array (items : List Toml)
  /-- A table in braces. -/
  | record (fields : List (String × Toml))
  | table (origin : Toml.Origin) (fields : List (String × Toml))
  /-- The tables of a header in double brackets. -/
  | tables (all : List (List (String × Toml)))
deriving Inhabited, Repr

namespace Toml

/-- The entries of a table, in the order in which they were first mentioned. -/
abbrev Fields := List (String × Toml)

/-- The fields with the value of a key replaced. -/
def replace (key : String) (value : Toml) : Fields → Fields
  | [] => []
  | (k, v) :: rest => if k = key then (k, value) :: rest else (k, v) :: replace key value rest

/-- One more field, if there is none of that key. -/
def add? (key : String) (value : Toml) (fields : Fields) : Option Fields :=
  match fields.lookup key with
  | some _ => none
  | none => some (fields ++ [(key, value)])

/-- The last of a list changed, if there is one. -/
def changeLast? {α : Type} (change : α → Option α) : List α → Option (List α)
  | [] => none
  | [a] => (change a).map ([·])
  | a :: b :: rest => (changeLast? change (b :: rest)).map (a :: ·)

/-- A value put under a dotted key: the segments before the last one, and the last one. -/
def put? (path : List String) (key : String) (value : Toml) (fields : Fields) : Option Fields :=
  match path with
  | [] => add? key value fields
  | segment :: rest =>
    match fields.lookup segment with
    | none => (put? rest key value []).map fun below => fields ++ [(segment, table .dotted below)]
    | some (table .dotted below) =>
      (put? rest key value below).map fun below => replace segment (table .dotted below) fields
    | some (table .implied below) =>
      if rest = [] then none
      else (put? rest key value below).map fun below =>
        replace segment (table .implied below) fields
    | some (tables all) =>
      if rest = [] then none
      else
        (changeLast? (put? rest key value) all).map fun all => replace segment (tables all) fields
    | some _ => none

/-- A change to the table at a path of headers; tables that are not there yet are implied. -/
def changeAt? (path : List String) (change : Fields → Option Fields) (fields : Fields) :
    Option Fields :=
  match path with
  | [] => change fields
  | segment :: rest =>
    match fields.lookup segment with
    | none =>
      (changeAt? rest change []).map fun below => fields ++ [(segment, table .implied below)]
    | some (table origin below) =>
      (changeAt? rest change below).map fun below => replace segment (table origin below) fields
    | some (tables all) =>
      (changeLast? (changeAt? rest change) all).map fun all => replace segment (tables all) fields
    | some _ => none

/-- A table begun by its header: it is new, or only implied so far. -/
def beginTable? (key : String) (fields : Fields) : Option Fields :=
  match fields.lookup key with
  | none => some (fields ++ [(key, table .header [])])
  | some (table .implied below) => some (replace key (table .header below) fields)
  | some _ => none

/-- One more table of a header in double brackets. -/
def beginTables? (key : String) (fields : Fields) : Option Fields :=
  match fields.lookup key with
  | none => some (fields ++ [(key, tables [[]])])
  | some (tables all) => some (replace key (tables (all ++ [[]])) fields)
  | some _ => none

end Toml

end CardSearch
