import CardSearch.Card.Field
import CardSearch.Match.Value
import CardSearch.Pattern.Reader
import CardSearch.Text.Occurrence

/-!
# Cards that meet a condition

A test looks up its field and compares what it finds with the operand. Of a list
one item is enough, except that an order is asked of a single value only. A
pattern is the text of the operand; where a pattern comes from is left to the
caller, so that it need not be read again for each card.
-/

namespace CardSearch

namespace Found

/-- Whether some value has a text with a property. -/
def anyText (f : Found) (p : List Char → Bool) : Bool := f.values.any fun v => p (Match.textOf v)

/-- Whether some value equals the operand; nothing equals the null operand. -/
def equals : Found → Operand → Bool
  | absent, operand => operand == .null
  | f, operand => f.values.any (Match.equalsOperand · operand)

/-- Whether a single value stands to the operand as asked. -/
def isOrdered (f : Found) (operand : Operand) (p : Ordering → Bool) : Bool :=
  match f with
  | one v => (Match.compareOperand? v operand).any p
  | _ => false

end Found

namespace Operator

/-- Whether what is found stands to the operand as the operator says. -/
def test (pattern? : String → Option Pattern) (op : Operator) (f : Found) (operand : Operand) :
    Bool :=
  match op with
  | equals => f.equals operand
  | pattern => (pattern? operand.display).any fun p => f.anyText p.isMatch
  | contains => f.anyText (Text.occursIn operand.display.toList)
  | startsWith => f.anyText operand.display.toList.isPrefixOf
  | present => f.isAbsent != operand.isTruthy
  | atLeast => f.isOrdered operand (·.isGE)
  | above => f.isOrdered operand (·.isGT)
  | atMost => f.isOrdered operand (·.isLE)
  | below => f.isOrdered operand (·.isLT)

end Operator

namespace Condition

mutual

/-- Whether a card meets the condition, patterns being taken from a source of them. -/
def meets (pattern? : String → Option Pattern) (card : Card) : Condition → Bool
  | .all parts => meetsAll pattern? card parts
  | .any parts => meetsAny pattern? card parts
  | .not inner => !meets pattern? card inner
  | .field name op operand => op.test pattern? (card.find name.toList) operand

def meetsAll (pattern? : String → Option Pattern) (card : Card) : List Condition → Bool
  | [] => true
  | c :: rest => meets pattern? card c && meetsAll pattern? card rest

def meetsAny (pattern? : String → Option Pattern) (card : Card) : List Condition → Bool
  | [] => false
  | c :: rest => meets pattern? card c || meetsAny pattern? card rest

end

theorem meetsAll_eq_all (pattern? : String → Option Pattern) (card : Card)
    (parts : List Condition) : meetsAll pattern? card parts = parts.all (meets pattern? card) := by
  induction parts with
  | nil => rfl
  | cons c rest ih => simp [meetsAll, ih]

theorem meetsAny_eq_any (pattern? : String → Option Pattern) (card : Card)
    (parts : List Condition) : meetsAny pattern? card parts = parts.any (meets pattern? card) := by
  induction parts with
  | nil => rfl
  | cons c rest ih => simp [meetsAny, ih]

/-- Whether a card meets the condition, each pattern being read where it is asked for. -/
def holds (c : Condition) (card : Card) : Bool := c.meets Pattern.ofString? card

end Condition

end CardSearch
