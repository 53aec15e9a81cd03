import CardSearch.Json.Printer
import CardSearch.Query.Condition
import CardSearch.Text.Blank
import CardSearch.Time.Reader

/-!
# Values and operands

How a single value of a card compares with the operand of a condition. Equality
asks for the same kind of value. The order is lenient: whatever can be read as a
whole number on both sides is compared as one, two texts that both tell an
instant are compared as instants, other texts by their characters, and numbers
that are left as doubles.
-/

namespace CardSearch.Match

open Number (minInt64 maxInt64 isInt64 nearestInt readInt64?)
open Text (trim)

/-- The text of a value as a search sees it: null is empty, and what is not text is JSON. -/
def textOf : Json → List Char
  | .string s => s.toList
  | .null => []
  | v => v.compact

/-- Whether a number is the double that an integer is rounded to. -/
def equalsInteger : Json.Number → Int → Bool
  | .int n, m => nearestInt n == nearestInt m
  | .float x, m => x.compareInt (nearestInt m) == .eq

/-- Whether a value equals an operand. -/
def equalsOperand : Json → Operand → Bool
  | .null, .null => true
  | .string s, .text t => s == t
  | .bool b, .bool c => b == c
  | .number n, .number m => equalsInteger n m
  | _, _ => false

/-- A whole number of up to 2^63 in size as a signed integer, 2^63 itself as the one below. -/
def toInt64? (n : Int) : Option Int :=
  if minInt64 ≤ n ∧ n ≤ maxInt64 + 1 then some (min n maxInt64) else none

/-- A text that is a whole number, blanks around it aside. -/
def readInteger? (s : String) : Option Int := readInt64? (trim s.toList)

/-- Yes and no as numbers. -/
def ofBool (b : Bool) : Int := if b then 1 else 0

/-- A value as a whole number, a fraction being cut off. -/
def integer? : Json → Option Int
  | .bool b => some (ofBool b)
  | .number (.int n) => if isInt64 n then some n else toInt64? (nearestInt n)
  | .number (.float x) => toInt64? x.truncate
  | .string s => readInteger? s
  | _ => none

/-- An operand as a whole number. -/
def operandInteger? : Operand → Option Int
  | .null => none
  | .bool b => some (ofBool b)
  | .number n => some n
  | .text s => readInteger? s

/-- Two texts in order: as instants if both are, else by their characters. -/
def compareTexts (s t : String) : Ordering :=
  match Time.Instant.ofString? s, Time.Instant.ofString? t with
  | some x, some y => x.compare y
  | _, _ => compare s t

/-- A number and an integer in order, both as doubles. -/
def compareNumbers : Json.Number → Int → Ordering
  | .int n, m => compare (nearestInt n) (nearestInt m)
  | .float x, m => x.compareInt (nearestInt m)

/-- A value and an operand of the same kind in order. -/
def compareAlike? : Json → Operand → Option Ordering
  | .string s, .text t => some (compareTexts s t)
  | .number n, .number m => some (compareNumbers n m)
  | _, _ => none

/-- A value and an operand in order, if there is an order between the two. -/
def compareOperand? (v : Json) (operand : Operand) : Option Ordering :=
  match integer? v, operandInteger? operand with
  | some n, some m => some (compare n m)
  | _, _ => compareAlike? v operand

end CardSearch.Match
