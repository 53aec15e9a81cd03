import CardSearch.Number.Integer

/-!
# Conditions

What a query asks of a card: a tree of conjunctions, disjunctions and negations
whose leaves compare a field with an operand.
-/

namespace CardSearch

/-- What a field is compared with. -/
inductive Operand where
  | null
  | bool (b : Bool)
  | number (n : Int)
  | text (s : String)
deriving DecidableEq, Repr

namespace Operand

/-- The operand as text, as it is searched for and shown. -/
def display : Operand → String
  | null => "NULL"
  | bool true => "true"
  | bool false => "false"
  | number n => String.ofList (Number.decimal n)
  | text s => s

/-- The text of a text operand. -/
def text? : Operand → Option String
  | text s => some s
  | _ => none

/-- Whether the operand counts as true where a yes or no is asked for. -/
def isTruthy : Operand → Bool
  | null => false
  | bool b => b
  | number n => n ≠ 0
  | text s => s ≠ ""

end Operand

/-- How a field is compared. -/
inductive Operator where
  | equals
  | pattern
  | contains
  | startsWith
  | present
  | atLeast
  | above
  | atMost
  | below
deriving DecidableEq, Repr

namespace Operator

/-- The sign that stands for the operator when a condition is shown. -/
def symbol : Operator → String
  | equals => "="
  | pattern => "~"
  | contains => "contains"
  | startsWith => "starts with"
  | present => "exists"
  | atLeast => ">="
  | above => ">"
  | atMost => "<="
  | below => "<"

end Operator

inductive Condition where
  | all (parts : List Condition)
  | any (parts : List Condition)
  | not (inner : Condition)
  | field (name : String) (op : Operator) (operand : Operand)
deriving Inhabited, Repr

/-- A leaf of a condition. -/
structure FieldTest where
  name : String
  op : Operator
  operand : Operand
deriving DecidableEq, Repr

namespace Condition

/-- The condition that every card meets. -/
def everything : Condition := .all []

/-- Whether a condition is the empty conjunction. -/
def isEverything : Condition → Bool
  | .all [] => true
  | _ => false

/-- The field is empty or not there. -/
def isNull (name : String) : Condition :=
  .any [.field name .equals (.text ""), .field name .present (.bool false)]

mutual

/-- The leaves from left to right. -/
def tests : Condition → List FieldTest
  | .all parts | .any parts => testsOfParts parts
  | .not inner => tests inner
  | .field name op operand => [⟨name, op, operand⟩]

def testsOfParts : List Condition → List FieldTest
  | [] => []
  | c :: rest => tests c ++ testsOfParts rest

end

theorem testsOfParts_eq_flatMap (parts : List Condition) :
    testsOfParts parts = parts.flatMap tests := by
  induction parts with
  | nil => rfl
  | cons c rest ih => simp [testsOfParts, ih]

end Condition

end CardSearch
