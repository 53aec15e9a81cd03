import CardSearch.Match.Condition

/-!
# Matchers

A matcher is a condition with its patterns read once, before the first card. It
keeps one pattern for each text; a text that is no pattern is left out, and a
test for it fails on every card.
-/

namespace CardSearch

structure Matcher where
  condition : Condition
  /-- The patterns by their texts, each text once. -/
  patterns : List (String × Pattern)

namespace Matcher

/-- The patterns with one more, unless its text is there already or is no pattern. -/
def addPattern (patterns : List (String × Pattern)) (text : String) : List (String × Pattern) :=
  match patterns.lookup text with
  | some _ => patterns
  | none =>
    match Pattern.ofString? text with
    | some p => patterns ++ [(text, p)]
    | none => patterns

/-- The texts of the patterns that a condition asks for. -/
def patternTexts (c : Condition) : List String :=
  (c.tests.filter (·.op = .pattern)).map (·.operand.display)

def ofCondition (c : Condition) : Matcher := ⟨c, (patternTexts c).foldl addPattern []⟩

/-- Whether the card meets the condition. -/
def isMatch (m : Matcher) (card : Card) : Bool := m.condition.meets (m.patterns.lookup ·) card

/-- The cards that meet the condition, in order. -/
def filter (m : Matcher) (cards : List Card) : List Card := cards.filter m.isMatch

end Matcher

end CardSearch
