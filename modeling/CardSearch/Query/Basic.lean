import CardSearch.Query.Condition

/-!
# Queries

A query that has been read: the condition that cards have to meet, how the cards
are to be sorted, and whether only duplicates or only distinct cards are wanted.
-/

namespace CardSearch

/-- A restriction on the set of cards rather than on a single card. -/
inductive Selection where
  /-- Cards whose front another card has too. -/
  | duplicate
  /-- The first card of each key. -/
  | distinct
deriving DecidableEq, Repr

namespace Selection

def name : Selection → String
  | duplicate => "duplicate"
  | distinct => "distinct"

end Selection

structure Query where
  condition : Condition
  sortBy : Option String := none
  descending : Bool := false
  selection : Option Selection := none
deriving Inhabited, Repr

namespace Query

/-- The field to sort by, when the query leaves it open. -/
def sortFieldOr (q : Query) (default : String) : String := q.sortBy.getD default

/-- Whether the query sets an order or a selection and asks nothing of single cards. -/
def isDirective (q : Query) : Bool :=
  q.condition.isEverything && (q.sortBy.isSome || q.selection.isSome)

end Query

/-- Why a query text is refused. -/
inductive QueryError where
  /-- A term that is neither a word nor a field, an operator and a value. -/
  | invalidTerm (term : String)
  /-- A term whose middle part is not an operator. -/
  | invalidOperator (term operator : String)
  /-- A pattern that cannot be read. -/
  | invalidPattern (pattern : String)
deriving DecidableEq, Repr

namespace QueryError

/-- The wording of an error. -/
def message : QueryError → String
  | invalidTerm term => "invalid query term: " ++ term
  | invalidOperator term operator =>
    "invalid operator '" ++ operator ++ "' in term: " ++ term
  | invalidPattern pattern => "invalid regex '" ++ pattern ++ "'"

end QueryError

end CardSearch
