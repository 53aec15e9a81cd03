import CardSearch.Json.Printer
import CardSearch.Query.Basic
import CardSearch.Time.Timestamp

/-!
# Queries as JSON

The JSON form of conditions and queries, for other programs to read.
-/

namespace CardSearch

/-- The word for an operator in JSON. -/
def Operator.key : Operator → String
  | equals => "equals"
  | pattern => "regex"
  | contains => "substring"
  | startsWith => "starts_with"
  | present => "exists"
  | atLeast => "gte"
  | above => "gt"
  | atMost => "lte"
  | below => "lt"

def Operand.json : Operand → Json
  | null => .null
  | bool b => .bool b
  | number n => .number (.int n)
  | text s => .string s

namespace Condition

mutual

def json : Condition → Json
  | .all parts => .object [("and", .array (partsJson parts))]
  | .any parts => .object [("or", .array (partsJson parts))]
  | .not inner => .object [("not", json inner)]
  | .field name op operand =>
    .object [("field_op",
      .object [("field", .string name), ("op", .string op.key), ("value", operand.json)])]

def partsJson : List Condition → List Json
  | [] => []
  | c :: rest => json c :: partsJson rest

end

end Condition

namespace Query

/-- The fields of a query; an order or selection that is not set has none. -/
def jsonFields (q : Query) : Json.Fields :=
  [("condition", q.condition.json)] ++ (q.sortBy.map fun f => ("sort_by", Json.string f)).toList ++
    [("descending", .bool q.descending)] ++
    (q.selection.map fun s => ("modifier", Json.string s.name)).toList

/-- The query with the instant from which its spans are counted. -/
def report (q : Query) (now : Time.Instant) : String :=
  (Json.object (("now", .string (String.ofList now.text)) :: q.jsonFields)).pretty

end Query

end CardSearch
