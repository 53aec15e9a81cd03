import CardSearch.Match.Matcher

/-!
# A matcher reads its condition

A matcher looks patterns up in a list that was made before the first card, a
condition reads each pattern where it is asked for. The two agree because the
list answers for every text that the condition can ask about: looking up a text
gives the pattern read from it, and nothing exactly when it is no pattern
(`lookup_ofCondition`). Sharing between tests with the same text and texts that
are no patterns therefore never show, and `isMatch_ofCondition` is what the
statements about searches rest on.
-/

namespace CardSearch

theorem Found.anyText_iff {f : Found} {p : List Char → Bool} :
    f.anyText p = true ↔ ∃ v ∈ f.values, p (Match.textOf v) = true :=
  List.any_eq_true

namespace Condition

mutual

/-- Only the texts of its own pattern tests matter to a condition. -/
theorem meets_congr {p q : String → Option Pattern} {card : Card} (c : Condition)
    (h : ∀ t ∈ c.tests, t.op = .pattern → p t.operand.display = q t.operand.display) :
    c.meets p card = c.meets q card := by
  match c with
  | .all parts =>
      rw [meets, meets]
      exact meetsAll_congr parts h
  | .any parts =>
      rw [meets, meets]
      exact meetsAny_congr parts h
  | .not inner =>
      rw [meets, meets]
      exact congrArg (!·) (meets_congr inner h)
  | .field name op operand =>
      rw [meets, meets]
      cases op with
      | pattern =>
          have heq := h ⟨name, .pattern, operand⟩ (by simp [tests]) rfl
          simp only [Operator.test, heq]
      | _ => rfl

theorem meetsAll_congr {p q : String → Option Pattern} {card : Card} (parts : List Condition)
    (h : ∀ t ∈ testsOfParts parts,
      t.op = .pattern → p t.operand.display = q t.operand.display) :
    meetsAll p card parts = meetsAll q card parts := by
  match parts with
  | [] => rfl
  | c :: rest =>
      rw [testsOfParts] at h
      rw [meetsAll, meetsAll, meets_congr c fun t ht => h t (List.mem_append_left _ ht),
        meetsAll_congr rest fun t ht => h t (List.mem_append_right _ ht)]

theorem meetsAny_congr {p q : String → Option Pattern} {card : Card} (parts : List Condition)
    (h : ∀ t ∈ testsOfParts parts,
      t.op = .pattern → p t.operand.display = q t.operand.display) :
    meetsAny p card parts = meetsAny q card parts := by
  match parts with
  | [] => rfl
  | c :: rest =>
      rw [testsOfParts] at h
      rw [meetsAny, meetsAny, meets_congr c fun t ht => h t (List.mem_append_left _ ht),
        meetsAny_congr rest fun t ht => h t (List.mem_append_right _ ht)]

end

/-- Together, two lists of conditions ask for what both ask for. -/
theorem holds_all_append (cs ds : List Condition) (card : Card) :
    (Condition.all (cs ++ ds)).holds card =
      ((Condition.all cs).holds card && (Condition.all ds).holds card) := by
  unfold holds
  rw [meets, meets, meets, meetsAll_eq_all, meetsAll_eq_all, meetsAll_eq_all, List.all_append]

theorem holds_all_singleton (c : Condition) (card : Card) :
    (Condition.all [c]).holds card = c.holds card := by
  rw [holds, meets, meetsAll, meetsAll, Bool.and_true, holds]

theorem holds_not (c : Condition) (card : Card) : (Condition.not c).holds card = !c.holds card := by
  rw [holds, meets, holds]

theorem holds_all_iff {parts : List Condition} {card : Card} :
    (Condition.all parts).holds card = true ↔ ∀ c ∈ parts, c.holds card = true := by
  rw [holds, meets, meetsAll_eq_all, List.all_eq_true]
  rfl

theorem holds_any_iff {parts : List Condition} {card : Card} :
    (Condition.any parts).holds card = true ↔ ∃ c ∈ parts, c.holds card = true := by
  rw [holds, meets, meetsAny_eq_any, List.any_eq_true]
  rfl

end Condition

namespace Matcher

theorem lookup_addPattern (patterns : List (String × Pattern)) (text other : String) :
    (addPattern patterns text).lookup other =
      (patterns.lookup other).or (if other = text then Pattern.ofString? other else none) := by
  unfold addPattern
  cases hold : patterns.lookup text with
  | some p =>
      by_cases h : other = text
      · subst h
        rw [hold, Option.some_or]
      · rw [if_neg h, Option.or_none]
  | none =>
      cases hread : Pattern.ofString? text with
      | some p =>
          show (patterns ++ [(text, p)]).lookup other = _
          rw [List.lookup_append]
          by_cases h : other = text
          · subst h
            rw [if_pos rfl, hread, List.lookup_cons_self]
          · have hne : (other == text) = false := beq_eq_false_iff_ne.2 h
            rw [if_neg h, List.lookup_cons, hne, List.lookup_nil]
      | none =>
          by_cases h : other = text
          · subst h
            rw [if_pos rfl, hread, Option.or_none]
          · rw [if_neg h, Option.or_none]

theorem lookup_foldl_addPattern (patterns : List (String × Pattern)) (texts : List String)
    (text : String) :
    (texts.foldl addPattern patterns).lookup text =
      (patterns.lookup text).or (if text ∈ texts then Pattern.ofString? text else none) := by
  induction texts generalizing patterns with
  | nil =>
      rw [List.foldl_nil, if_neg (List.not_mem_nil), Option.or_none]
  | cons t texts ih =>
      rw [List.foldl_cons, ih, lookup_addPattern, Option.or_assoc]
      congr 1
      by_cases h : text = t
      · subst h
        rw [if_pos rfl, if_pos List.mem_cons_self]
        split <;> simp
      · rw [if_neg h, Option.none_or]
        simp only [List.mem_cons, h, false_or]

/-- What a matcher finds for a text that its condition asks about. -/
theorem lookup_ofCondition {c : Condition} {text : String} (h : text ∈ patternTexts c) :
    (ofCondition c).patterns.lookup text = Pattern.ofString? text := by
  show ((patternTexts c).foldl addPattern []).lookup text = _
  rw [lookup_foldl_addPattern, if_pos h, List.lookup_nil, Option.none_or]

/-- The tests of a part are tests of the whole, so the patterns of the whole answer for it. -/
theorem meets_ofCondition {c whole : Condition} (h : c.tests ⊆ whole.tests) (card : Card) :
    c.meets ((ofCondition whole).patterns.lookup ·) card = c.holds card := by
  refine Condition.meets_congr c fun t ht hop => lookup_ofCondition ?_
  exact List.mem_map.2 ⟨t, List.mem_filter.2 ⟨h ht, decide_eq_true hop⟩, rfl⟩

theorem isMatch_ofCondition (c : Condition) (card : Card) :
    (ofCondition c).isMatch card = c.holds card :=
  meets_ofCondition (List.Subset.refl _) card

theorem isMatch_field {card : Card} {field : String} {operand : Operand} (op : Operator) :
    (ofCondition (.field field op operand)).isMatch card =
      op.test Pattern.ofString? (card.find field.toList) operand := by
  rw [isMatch_ofCondition, Condition.holds, Condition.meets]

end Matcher

end CardSearch
