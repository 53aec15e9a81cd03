import CardSearch.Query.Basic
import CardSearch.Report.Style
import CardSearch.Text.Line
import CardSearch.Text.Quoted

/-!
# Queries as trees

A query is shown as a tree, one line for each node of its condition and two
spaces of indentation for each level, and after it a line for the order and one
for the selection where the query has them. Text operands are quoted, so that a
node never takes more than its line.
-/

namespace CardSearch.Report

open Text (quoted ofLines)

/-- An operand: text is quoted. -/
def operandText : Operand → List Char
  | .text s => quoted s.toList
  | v => v.display.toList

/-- The spaces before a node. -/
def indentation (depth : Nat) : List Char := List.replicate (2 * depth) ' '

/-- The word for a conjunction or disjunction, with what it means when it is empty. -/
def allLabel (isEmpty : Bool) : List Char :=
  if isEmpty then "and (matches everything)".toList else "and".toList

def anyLabel (isEmpty : Bool) : List Char :=
  if isEmpty then "or (matches nothing)".toList else "or".toList

/-- The line of a node that has others below it. -/
def keywordLine (styled : Bool) (depth : Nat) (label : List Char) : List Char :=
  indentation depth ++ paint styled .bold label

/-- The line of a leaf. -/
def fieldLine (styled : Bool) (depth : Nat) (t : FieldTest) : List Char :=
  indentation depth ++ paint styled .cyan t.name.toList ++ ' ' :: t.op.symbol.toList ++
    ' ' :: operandText t.operand

mutual

/-- The lines of a condition at a depth. -/
def conditionLines (styled : Bool) (depth : Nat) : Condition → List (List Char)
  | .all parts =>
    keywordLine styled depth (allLabel parts.isEmpty) :: partLines styled (depth + 1) parts
  | .any parts =>
    keywordLine styled depth (anyLabel parts.isEmpty) :: partLines styled (depth + 1) parts
  | .not inner => keywordLine styled depth "not".toList :: conditionLines styled (depth + 1) inner
  | .field name op operand => [fieldLine styled depth ⟨name, op, operand⟩]

def partLines (styled : Bool) (depth : Nat) : List Condition → List (List Char)
  | [] => []
  | c :: rest => conditionLines styled depth c ++ partLines styled depth rest

end

/-- The line that tells the order. -/
def sortLines (q : Query) : List (List Char) :=
  match q.sortBy with
  | none => []
  | some field =>
    ["sort: ".toList ++ field.toList ++ ' ' ::
      (if q.descending then "descending" else "ascending").toList]

/-- The line that tells the selection. -/
def selectionLines (q : Query) : List (List Char) :=
  match q.selection with
  | none => []
  | some s => ["modifier: ".toList ++ s.name.toList]

/-- The lines of a query. -/
def queryLines (styled : Bool) (q : Query) : List (List Char) :=
  conditionLines styled 0 q.condition ++ sortLines q ++ selectionLines q

/-- The query as a tree. -/
def queryTree (styled : Bool) (q : Query) : List Char := ofLines (queryLines styled q)

end CardSearch.Report
