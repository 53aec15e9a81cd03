import CardSearch.Match.Matcher
import CardSearch.Query.Parser
import CardSearch.Search.Selection
import CardSearch.Search.SortKey

/-!
# Searching a store

A search takes the candidates of a query, keeps the rows that meet its condition,
puts them in order and cuts the page out that was asked for. The order `random`
shuffles the rows; the shuffle is given as a rank for each position, so that a
search is a function of its arguments like any other.
-/

namespace CardSearch

namespace Search

/-- The order that shuffles. -/
def randomOrder : String := "random"

/-- The order when neither the query nor the caller asks for one. -/
def defaultOrder : String := "deck"

/-- The number of rows on a page when the caller does not ask for one. -/
def defaultLimit : Nat := 10

/-- What the caller of a search asks for. -/
structure Options where
  sortBy : String := defaultOrder
  descending : Bool := false
  offset : Nat := 0
  /-- The greatest number of rows on the page; without one, all rows are. -/
  limit : Option Nat := some defaultLimit
deriving DecidableEq, Repr

/-- A page of results. -/
structure Page where
  rows : List Row
  /-- The number of rows that meet the condition, on the page or not. -/
  count : Nat
deriving BEq, Repr

/-- The cards on a page. -/
def Page.cards (p : Page) : List Card := p.rows.map (·.card)

/-- The order that a selection brings with it. -/
def forcedOrder : Selection → String
  | .duplicate => "front"
  | .distinct => randomOrder

/-- The field to sort by. -/
def sortField (q : Query) (o : Options) : String :=
  match q.selection with
  | some s => forcedOrder s
  | none => q.sortFieldOr o.sortBy

/-- The direction: that of the query if it asks for an order, else that of the caller. -/
def isDescending (q : Query) (o : Options) : Bool :=
  if q.sortBy.isSome then q.descending else o.descending

/-- The rows in order of the ranks of their positions. -/
def shuffle (rank : Nat → Nat) (rows : List Row) : List Row :=
  rows.mergeSort fun a b => rank a.position ≤ rank b.position

/-- The rows in the order of a field. -/
def arrange (rank : Nat → Nat) (field : String) (descending : Bool) (rows : List Row) : List Row :=
  if field = randomOrder then shuffle rank rows
  else sortByKey (fun r => SortKey.ofCard field.toList r.card) descending rows

/-- The rows that meet the condition of a query, in store order. -/
def matching (cards : List Card) (q : Query) : List Row :=
  let m := Matcher.ofCondition q.condition
  (Selection.candidates q.selection (Row.ofCards cards)).filter fun r => m.isMatch r.card

/-- All rows that a query finds, in the order asked for. -/
def results (rank : Nat → Nat) (cards : List Card) (q : Query) (o : Options) : List Row :=
  arrange rank (sortField q o) (isDescending q o) (matching cards q)

/-- The rows from an offset on, up to a limit. -/
def window (offset : Nat) (limit : Option Nat) (rows : List Row) : List Row :=
  let rest := rows.drop offset
  match limit with
  | some n => rest.take n
  | none => rest

/-- The page that a query finds. -/
def execute (rank : Nat → Nat) (cards : List Card) (q : Query) (o : Options) : Page :=
  let found := results rank cards q o
  { rows := window o.offset o.limit found, count := found.length }

/-- The page that the text of a query finds. -/
def run (rank : Nat → Nat) (cards : List Card) (text : String) (now : Time.Instant) (o : Options) :
    Query.Reading Page :=
  (Query.ofString now text).map fun q => execute rank cards q o

/-- Why a search in a source of cards fails. -/
inductive Failure (α : Type) where
  /-- The query cannot be read. -/
  | query (e : QueryError)
  /-- The source has no cards to give. -/
  | source (e : α)
deriving Repr

/--
The page that the text of a query finds in a source, which is asked only for a
query that can be read.
-/
def runSource {α : Type} (rank : Nat → Nat) (source : Except α (List Card)) (text : String)
    (now : Time.Instant) (o : Options) : Except (Failure α) Page :=
  match (Query.ofString now text).result with
  | .error e => .error (.query e)
  | .ok q =>
    match source with
    | .error e => .error (.source e)
    | .ok cards => .ok (execute rank cards q o)

end Search

end CardSearch
