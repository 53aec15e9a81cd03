import CardSearch.Proofs.Matchers
import Mathlib

/-!
# What a condition says

A condition is read here without a matcher: a conjunction asks for all its parts, a
disjunction for one of them, a negation for the opposite, and a test asks for what its
operator says of the find and the operand. A test for a pattern reads the pattern where
it stands. By induction on the tree that is what `holds` decides (`holds_iff_isMetBy`).

A matcher asks its list of patterns instead. The list of a condition answers for the texts
of all its parts, so each part comes out as it would alone (`Matcher.meets_ofCondition`):
that two tests share a text, or that a text elsewhere is no pattern, changes nothing.
-/

namespace CardSearch

/-! ## Tests -/

/-- What an operator says of a find and an operand. -/
def Operator.Relates (op : Operator) (f : Found) (operand : Operand) : Prop :=
  match op with
  | equals =>
      f = .absent ∧ operand = .null ∨ ∃ v ∈ f.values, Match.equalsOperand v operand = true
  | pattern =>
      ∃ p, Pattern.ofString? operand.display = some p ∧
        ∃ v ∈ f.values, p.isMatch (Match.textOf v) = true
  | contains => ∃ v ∈ f.values, operand.display.toList <:+: Match.textOf v
  | startsWith => ∃ v ∈ f.values, operand.display.toList <+: Match.textOf v
  | present => f.isAbsent = false ↔ operand.isTruthy = true
  | atLeast => ∃ v o, f = .one v ∧ Match.compareOperand? v operand = some o ∧ o ≠ .lt
  | above => ∃ v o, f = .one v ∧ Match.compareOperand? v operand = some o ∧ o = .gt
  | atMost => ∃ v o, f = .one v ∧ Match.compareOperand? v operand = some o ∧ o ≠ .gt
  | below => ∃ v o, f = .one v ∧ Match.compareOperand? v operand = some o ∧ o = .lt

namespace Found

theorem equals_iff_relates {f : Found} {operand : Operand} :
    f.equals operand = true ↔ Operator.equals.Relates f operand := by
  cases f with
  | absent =>
      show (operand == .null) = true ↔ _
      rw [beq_iff_eq]
      exact ⟨fun h => Or.inl ⟨rfl, h⟩, fun h => (h.resolve_right fun ⟨v, hv, _⟩ => nomatch hv).2⟩
  | one v | many vs =>
      exact List.any_eq_true.trans ⟨Or.inr, fun h => h.resolve_left fun ⟨h, _⟩ => nomatch h⟩

theorem isOrdered_iff {f : Found} {operand : Operand} {p : Ordering → Bool}
    {asked : Ordering → Prop} (h : ∀ o, p o = true ↔ asked o) :
    f.isOrdered operand p = true ↔
      ∃ v o, f = .one v ∧ Match.compareOperand? v operand = some o ∧ asked o := by
  cases f with
  | absent => simp [isOrdered]
  | one v =>
      rw [isOrdered, Option.any_eq_true]
      constructor
      · intro ⟨o, ho, hp⟩
        exact ⟨v, o, rfl, ho, (h o).1 hp⟩
      · intro ⟨w, o, hw, ho, hasked⟩
        cases hw
        exact ⟨o, ho, (h o).2 hasked⟩
  | many vs => simp [isOrdered]

end Found

/-- A test decides what its operator says. -/
theorem Operator.test_iff_relates {op : Operator} {f : Found} {operand : Operand} :
    op.test Pattern.ofString? f operand = true ↔ op.Relates f operand := by
  cases op with
  | equals => exact Found.equals_iff_relates
  | pattern =>
      show (Pattern.ofString? operand.display).any _ = true ↔ _
      rw [Option.any_eq_true]
      simp only [Found.anyText_iff]
      rfl
  | contains =>
      show f.anyText _ = true ↔ _
      rw [Found.anyText_iff]
      simp only [Text.occursIn_eq_true_iff]
      rfl
  | startsWith =>
      show f.anyText _ = true ↔ _
      rw [Found.anyText_iff]
      simp only [List.isPrefixOf_iff_prefix]
      rfl
  | present =>
      show (f.isAbsent != operand.isTruthy) = true ↔ (f.isAbsent = false ↔ operand.isTruthy = true)
      cases f.isAbsent <;> cases operand.isTruthy <;> decide
  | atLeast => exact Found.isOrdered_iff fun _ => Ordering.ne_lt_iff_isGE.symm
  | above => exact Found.isOrdered_iff fun _ => Ordering.isGT_iff_eq_gt
  | atMost => exact Found.isOrdered_iff fun _ => Ordering.ne_gt_iff_isLE.symm
  | below => exact Found.isOrdered_iff fun _ => Ordering.isLT_iff_eq_lt

/-! ## Conditions -/

namespace Condition

/-- What a condition says of a card. -/
def IsMetBy (card : Card) : Condition → Prop
  | .all parts => ∀ c, (_ : c ∈ parts) → c.IsMetBy card
  | .any parts => ∃ c, ∃ _ : c ∈ parts, c.IsMetBy card
  | .not inner => ¬ inner.IsMetBy card
  | .field name op operand => op.Relates (card.find name.toList) operand

theorem holds_iff_isMetBy (c : Condition) (card : Card) :
    c.holds card = true ↔ c.IsMetBy card := by
  cases c with
  | all parts =>
      rw [holds_all_iff, IsMetBy]
      constructor
      · intro h part hpart
        exact (holds_iff_isMetBy part card).1 (h part hpart)
      · intro h part hpart
        exact (holds_iff_isMetBy part card).2 (h part hpart)
  | any parts =>
      rw [holds_any_iff, IsMetBy]
      constructor
      · rintro ⟨part, hpart, h⟩
        exact ⟨part, hpart, (holds_iff_isMetBy part card).1 h⟩
      · rintro ⟨part, hpart, h⟩
        exact ⟨part, hpart, (holds_iff_isMetBy part card).2 h⟩
  | not inner =>
      rw [holds_not, IsMetBy, Bool.not_eq_true', ← holds_iff_isMetBy inner card,
        Bool.not_eq_true]
  | field name op operand =>
      rw [holds, meets, IsMetBy]
      exact Operator.test_iff_relates

end Condition

namespace Matcher

/-- A matcher decides what its condition says. By the patterns of a whole its parts come out
as they do by their own, whatever texts they share with other tests and whatever texts in
the whole are no patterns. -/
theorem decides_meaning (c : Condition) (card : Card) :
    ((ofCondition c).isMatch card = true ↔ c.IsMetBy card) ∧
    ∀ whole : Condition, c.tests ⊆ whole.tests →
      c.meets ((ofCondition whole).patterns.lookup ·) card = (ofCondition c).isMatch card := by
  constructor
  · rw [isMatch_ofCondition]
    exact Condition.holds_iff_isMetBy c card
  · intro whole htests
    rw [isMatch_ofCondition]
    exact meets_ofCondition htests card

/-- A test that shares its text with another one, beside a text that is no pattern. -/
theorem decides_meaning_shared_text :
    (Condition.not (.field "deck" .pattern (.text "b"))).tests ⊆
      (Condition.any [.field "front" .pattern (.text "*"), .all [.field "front" .pattern (.text "b"),
        .not (.field "deck" .pattern (.text "b"))]]).tests ∧
    (Condition.not (.field "deck" .pattern (.text "b"))).meets
        ((ofCondition (.any [.field "front" .pattern (.text "*"),
          .all [.field "front" .pattern (.text "b"),
            .not (.field "deck" .pattern (.text "b"))]])).patterns.lookup ·)
        ⟨[("deck", .string "a"), ("front", .string "AB")]⟩ = true := by
  have htests : (Condition.not (.field "deck" .pattern (.text "b"))).tests ⊆
      (Condition.any [.field "front" .pattern (.text "*"), .all [.field "front" .pattern (.text "b"),
        .not (.field "deck" .pattern (.text "b"))]]).tests := by
    intro t ht
    exact List.mem_of_mem_getLast? (congrArg some (List.mem_singleton.1 ht).symm)
  have hmeaning := decides_meaning (.not (.field "deck" .pattern (.text "b")))
    ⟨[("deck", .string "a"), ("front", .string "AB")]⟩
  refine ⟨htests, (hmeaning.2 _ htests).trans ?_⟩
  cbv

end Matcher

end CardSearch
