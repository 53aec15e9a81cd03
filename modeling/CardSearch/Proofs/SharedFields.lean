import CardSearch.Proofs.ConditionMeaning

/-!
# Fields that columns and custom fields share

A name that is not the card's own leads to two places, a column and the custom field of
that name, and what is found is the merge of both. The values of a merge are the values
of the one followed by those of the other, whatever the two are: nothing, a single value,
a list, an empty list among them. So a test that one value can pass is passed by the
merge iff it is passed on one of the sides (`relates_merge_iff`); a test for presence
looks at the sides themselves, as an empty list is there and has no values.
-/

namespace CardSearch

namespace Operator

/-- Whether one value that passes is all that the test takes. -/
def AsksOfOne (op : Operator) (operand : Operand) : Prop :=
  op ∈ [pattern, contains, startsWith] ∨ op = equals ∧ operand ≠ .null

variable {op : Operator} {operand : Operand}

theorem exists_relates_iff (h : op.AsksOfOne operand) :
    ∃ passes : Json → Prop, ∀ f, op.Relates f operand ↔ ∃ v ∈ f.values, passes v := by
  rcases h with hop | ⟨rfl, hnull⟩
  · simp only [List.mem_cons, List.not_mem_nil, or_false] at hop
    rcases hop with rfl | rfl | rfl
    · refine ⟨fun v => ∃ p, Pattern.ofString? operand.display = some p ∧
        p.isMatch (Match.textOf v) = true, fun f => ?_⟩
      constructor
      · intro ⟨p, hp, v, hv, hmatch⟩
        exact ⟨v, hv, p, hp, hmatch⟩
      · intro ⟨v, hv, p, hp, hmatch⟩
        exact ⟨p, hp, v, hv, hmatch⟩
    · exact ⟨_, fun f => Iff.rfl⟩
    · exact ⟨_, fun f => Iff.rfl⟩
  · exact ⟨fun v => Match.equalsOperand v operand = true,
      fun f => or_iff_right fun ⟨_, h⟩ => hnull h⟩

/-- A merge passes a test that one value can pass iff one of its sides does. -/
theorem relates_merge_iff (h : op.AsksOfOne operand) (f g : Found) :
    op.Relates (f.merge g) operand ↔ op.Relates f operand ∨ op.Relates g operand := by
  obtain ⟨passes, hpasses⟩ := exists_relates_iff h
  rw [hpasses, hpasses, hpasses, Found.values_merge]
  simp only [List.mem_append, or_and_right, exists_or]

end Operator

namespace Card

theorem find_of_at (key : List Char) (card : Card) : card.find ('@' :: key) = card.custom key :=
  rfl

theorem find_eq_merge {field : List Char} (hat : field.head? ≠ some '@')
    (hshared : field ∉ unsharedFields) (card : Card) :
    card.find field = (card.column field).merge (card.custom field) := by
  have hcontains : unsharedFields.contains field = false := by
    rw [List.contains_eq_mem, decide_eq_false hshared]
  cases field with
  | nil => rfl
  | cons c rest =>
      have hc : c ≠ '@' := fun e => hat (congrArg some e)
      unfold find
      split
      · next key heq => exact absurd (List.cons.inj heq).1 hc
      · rw [hcontains]
        rfl

end Card

namespace Found

variable {f g : Found}

theorem isAbsent_merge_eq_false_iff :
    (f.merge g).isAbsent = false ↔ f.isAbsent = false ∨ g.isAbsent = false := by
  rw [isAbsent_merge, Bool.and_eq_false_iff]

theorem isAbsent_merge_eq_true_iff :
    (f.merge g).isAbsent = true ↔ f.isAbsent = true ∧ g.isAbsent = true := by
  rw [isAbsent_merge, Bool.and_eq_true]

/-- Sides that are both there make a list of their values. -/
theorem merge_of_present (hf : f.isAbsent = false) (hg : g.isAbsent = false) :
    f.merge g = .many (f.values ++ g.values) := by
  cases f with
  | absent => cases hf
  | one v | many vs =>
      cases g with
      | absent => cases hg
      | one w | many ws => rfl

end Found

/-- A shared field is searched as one set. A test that one value can pass is passed by the
field iff the column or the custom field passes it, and the field is there iff either of
them is. Its values are those of the column and then those of the custom field, in a list
if both are there and else in the form of the one that is. -/
theorem shared_field_matched_as_one {field : String} (hat : field.toList.head? ≠ some '@')
    (hshared : field.toList ∉ Card.unsharedFields) (card : Card) :
    (∀ op operand, op.AsksOfOne operand →
      ((Matcher.ofCondition (.field field op operand)).isMatch card = true ↔
        op.test Pattern.ofString? (card.column field.toList) operand = true ∨
          (Matcher.ofCondition (.field ("@" ++ field) op operand)).isMatch card = true)) ∧
    ((Matcher.ofCondition (.field field .present (.bool true))).isMatch card = true ↔
      (card.column field.toList).isAbsent = false ∨
        (card.find ("@" ++ field).toList).isAbsent = false) ∧
    ((Matcher.ofCondition (.field field .present (.bool false))).isMatch card = true ↔
      (card.column field.toList).isAbsent = true ∧
        (card.find ("@" ++ field).toList).isAbsent = true) ∧
    (card.find field.toList = (card.column field.toList).merge (card.find ("@" ++ field).toList) ∧
      (card.find field.toList).values =
        (card.column field.toList).values ++ (card.find ("@" ++ field).toList).values) ∧
    (∀ f g : Found, f.isAbsent = false → g.isAbsent = false →
      f.merge g = .many (f.values ++ g.values)) ∧
    (∀ f g h : Found, (f.merge g).merge h = f.merge (g.merge h)) ∧
    ∀ f : Found, f.merge .absent = f ∧ Found.absent.merge f = f := by
  have hkey : ("@" ++ field).toList = '@' :: field.toList := String.toList_append
  have hfind := Card.find_eq_merge hat hshared card
  rw [← Card.find_of_at, ← hkey] at hfind
  refine ⟨fun op operand hone => ?_, ?_, ?_, ⟨hfind, ?_⟩, ?_, Found.merge_assoc, fun f => ?_⟩
  · rw [Matcher.isMatch_field, Matcher.isMatch_field, Operator.test_iff_relates,
      Operator.test_iff_relates, Operator.test_iff_relates, hfind]
    exact Operator.relates_merge_iff hone _ _
  · rw [Matcher.isMatch_field, Operator.test_iff_relates, hfind]
    exact (iff_true_right rfl).trans Found.isAbsent_merge_eq_false_iff
  · rw [Matcher.isMatch_field, Operator.test, hfind]
    show ((Found.merge _ _).isAbsent != false) = true ↔ _
    rw [Bool.bne_false]
    exact Found.isAbsent_merge_eq_true_iff
  · rw [hfind, Found.values_merge]
  · intro f g hf hg
    exact Found.merge_of_present hf hg
  · exact ⟨Found.merge_absent f, Found.absent_merge f⟩

/-- The values of an object beside the custom field of that path, under another case and
after an entry that is none. -/
theorem shared_field_matched_as_one_every_value :
    "stat.*".toList.head? ≠ some '@' ∧ "stat.*".toList ∉ Card.unsharedFields ∧
    Operator.equals.AsksOfOne (.text "x") ∧
    (Matcher.ofCondition (.field "stat.*" .equals (.text "x"))).isMatch
      ⟨[("data", .array [.string "junk", .object [("key", .string "Stat.*"),
          ("value", .array [.null, .string "x"])]]),
        ("stat", .object [("right", .number (.int 3)), ("wrong", .number (.int 1))])]⟩ = true ∧
    (Found.one (.string "x")).merge (.many []) = .many [.string "x"] := by
  have hone : Operator.equals.AsksOfOne (.text "x") := Or.inr ⟨rfl, Operand.noConfusion⟩
  have hmatched := shared_field_matched_as_one (by decide : "stat.*".toList.head? ≠ some '@')
    (by decide : "stat.*".toList ∉ Card.unsharedFields)
    ⟨[("data", .array [.string "junk", .object [("key", .string "Stat.*"),
        ("value", .array [.null, .string "x"])]]),
      ("stat", .object [("right", .number (.int 3)), ("wrong", .number (.int 1))])]⟩
  refine ⟨by decide, by decide, hone, (hmatched.1 _ _ hone).2 (Or.inr ?_), ?_⟩
  · decide +kernel
  · exact hmatched.2.2.2.2.1 _ _ rfl rfl

end CardSearch
