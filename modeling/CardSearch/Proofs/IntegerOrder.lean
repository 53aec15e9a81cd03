import CardSearch.Proofs.Matchers
import CardSearch.Proofs.Rounding

/-!
# Integers in order

A whole number in a card may have 64 bits with or without a sign, the operand of a
condition has 64 with one. Up to `maxInt64` both sides are compared as they are. A
number beyond goes through its double: rounded to 2^63 it still counts as the greatest
signed one, and rounded to more it is compared with a number as a double, and with a
text not at all. Rounding keeps the order (`nearestInt_mono`), so the operators of
order are those of the integers but for the one operand that is cut to (`Saturates`).

Equality always rounds. It tells integers apart that have doubles of their own, so it
is exact as long as one of them is below 2^53 in size (`eq_of_nearestInt_eq`).
-/

namespace CardSearch

namespace Match

open Number

variable {n m : Int}

/-! ## The integer that a number counts as -/

theorem integer?_of_le (hmin : minInt64 ≤ n) (hmax : n ≤ maxInt64) :
    integer? (.number (.int n)) = some n := by
  have hrange : isInt64 n = true :=
    Bool.and_eq_true_iff.2 ⟨decide_eq_true hmin, decide_eq_true hmax⟩
  rw [integer?, if_pos hrange]

theorem integer?_of_lt (h : maxInt64 < n) :
    integer? (.number (.int n)) = toInt64? (nearestInt n) := by
  have hrange : ¬ isInt64 n = true := fun hrange =>
    Int.not_le.2 h (of_decide_eq_true (Bool.and_eq_true_iff.1 hrange).2)
  rw [integer?, if_neg hrange]

theorem integer?_of_near (hlow : maxInt64 < n) (hhigh : n ≤ greatestNearInt64) :
    integer? (.number (.int n)) = some maxInt64 := by
  rw [integer?_of_lt hlow, nearestInt_of_near hlow hhigh]
  rfl

theorem integer?_of_beyond (h : greatestNearInt64 < n) : integer? (.number (.int n)) = none := by
  have hlow : maxInt64 < n := Int.lt_trans (by decide) h
  rw [integer?_of_lt hlow, toInt64?, if_neg fun hrange => ?_]
  exact Int.not_le.2 (lt_nearestInt_of_beyond h) hrange.2

theorem operandInteger?_decimal (hm : isInt64 m = true) :
    operandInteger? (.text (String.ofList (decimal m))) = some m := by
  have hunblank : ∀ c ∈ decimal m, Text.isBlank c = false := by
    intro c hc
    rcases isDigit_of_mem_decimal hc with rfl | hdigit
    · decide
    · exact Text.isBlank_of_isDigit hdigit
  have htrim : Text.trim (decimal m) = decimal m :=
    Text.trim_eq_self (fun c hc => hunblank c (List.mem_of_mem_head? hc))
      (fun c hc => hunblank c (List.mem_of_getLast? hc))
  rw [operandInteger?, readInteger?, String.toList_ofList, htrim, readInt64?, readInt?_decimal,
    Option.filter_some, if_pos hm]

/-! ## How a number compares with an operand -/

/-- An integer beyond the greatest signed one that is cut down to it, next to that one. -/
def Saturates (n m : Int) : Prop := m = maxInt64 ∧ maxInt64 < n ∧ n ≤ greatestNearInt64

instance (n m : Int) : Decidable (Saturates n m) :=
  inferInstanceAs (Decidable (m = maxInt64 ∧ maxInt64 < n ∧ n ≤ greatestNearInt64))

/-- Two integers that are rounded to one double. -/
def ShareDouble (n m : Int) : Prop := n ≠ m ∧ nearestInt n = nearestInt m

instance (n m : Int) : Decidable (ShareDouble n m) :=
  inferInstanceAs (Decidable (n ≠ m ∧ nearestInt n = nearestInt m))

theorem not_shareDouble_of_natAbs_lt
    (h : n.natAbs < mantissaCount ∨ m.natAbs < mantissaCount) : ¬ ShareDouble n m := by
  rintro ⟨hne, hround⟩
  rcases h with hn | hm
  · exact hne (eq_of_nearestInt_eq hn hround)
  · exact hne (eq_of_nearestInt_eq hm hround.symm).symm

theorem compareOperand?_of_integer {operand : Operand} (hmin : minInt64 ≤ n)
    (hn : n ≤ greatestNearInt64) (hm : isInt64 m = true) (hsaturates : ¬ Saturates n m)
    (hoperand : operandInteger? operand = some m) :
    compareOperand? (.number (.int n)) operand = some (compare n m) := by
  have hmax : m ≤ maxInt64 := of_decide_eq_true (Bool.and_eq_true_iff.1 hm).2
  rcases Int.lt_or_le maxInt64 n with hlow | hle
  · have hm' : m < maxInt64 := by
      refine Int.lt_iff_le_and_ne.2 ⟨hmax, fun e => hsaturates ⟨e, hlow, hn⟩⟩
    rw [compareOperand?, integer?_of_near hlow hn, hoperand]
    show some (compare maxInt64 m) = _
    rw [Int.compare_eq_gt.2 hm', Int.compare_eq_gt.2 (Int.lt_trans hm' hlow)]
  · rw [compareOperand?, integer?_of_le hmin hle, hoperand]

/-- Beyond that a number is compared with a number only, as a double. -/
theorem compareOperand?_of_beyond (hn : greatestNearInt64 < n) (hm : isInt64 m = true) :
    compareOperand? (.number (.int n)) (.number m) = some (compare n m) := by
  have hmax : m ≤ maxInt64 := of_decide_eq_true (Bool.and_eq_true_iff.1 hm).2
  have hround : nearestInt m < nearestInt n := by
    calc nearestInt m ≤ nearestInt (maxInt64 + 1) := nearestInt_mono (by omega)
      _ = maxInt64 + 1 := nearestInt_of_near (by decide) (by decide)
      _ < nearestInt n := lt_nearestInt_of_beyond hn
  have horder : m < n := Int.lt_of_le_of_lt hmax (Int.lt_trans (by decide) hn)
  rw [compareOperand?, integer?_of_beyond hn]
  show some (compare (nearestInt n) (nearestInt m)) = _
  rw [Int.compare_eq_gt.2 hround, Int.compare_eq_gt.2 horder]

theorem compareOperand?_number (hmin : minInt64 ≤ n) (hm : isInt64 m = true)
    (hsaturates : ¬ Saturates n m) :
    compareOperand? (.number (.int n)) (.number m) = some (compare n m) := by
  rcases Int.lt_or_le greatestNearInt64 n with hbeyond | hle
  · exact compareOperand?_of_beyond hbeyond hm
  · exact compareOperand?_of_integer hmin hle hm hsaturates rfl

theorem compareOperand?_text_of_beyond (hn : greatestNearInt64 < n) (s : String) :
    compareOperand? (.number (.int n)) (.text s) = none := by
  rw [compareOperand?, integer?_of_beyond hn]
  rfl

end Match

/-! ## The operators of order -/

/-- The four operators of order stand to the operand as one integer stands to another. -/
structure FollowsOrder (card : Card) (field : String) (operand : Operand) (n m : Int) : Prop where
  above : (Matcher.ofCondition (.field field .above operand)).isMatch card = true ↔ m < n
  atLeast : (Matcher.ofCondition (.field field .atLeast operand)).isMatch card = true ↔ m ≤ n
  below : (Matcher.ofCondition (.field field .below operand)).isMatch card = true ↔ n < m
  atMost : (Matcher.ofCondition (.field field .atMost operand)).isMatch card = true ↔ n ≤ m

section Card

open Number (minInt64 maxInt64 isInt64 greatestNearInt64 mantissaCount decimal)
open Match (Saturates ShareDouble)

variable {card : Card} {field : String} {operand : Operand} {v : Json} {n m : Int}

theorem followsOrder_of_compareOperand? (hfind : card.find field.toList = .one v)
    (hcompare : Match.compareOperand? v operand = some (compare n m)) :
    FollowsOrder card field operand n m := by
  have hordered : ∀ p, (card.find field.toList).isOrdered operand p = p (compare n m) := by
    intro p
    rw [hfind, Found.isOrdered, hcompare, Option.any_some]
  constructor
  · rw [Matcher.isMatch_field, Operator.test, hordered, Ordering.isGT_iff_eq_gt, Int.compare_eq_gt]
  · rw [Matcher.isMatch_field, Operator.test, hordered, Int.isGE_compare]
  · rw [Matcher.isMatch_field, Operator.test, hordered, Ordering.isLT_iff_eq_lt, Int.compare_eq_lt]
  · rw [Matcher.isMatch_field, Operator.test, hordered, Int.isLE_compare]

theorem not_isMatch_of_compareOperand? (hfind : card.find field.toList = .one v)
    (hcompare : Match.compareOperand? v operand = none) :
    ∀ op ∈ [Operator.above, .atLeast, .below, .atMost],
      (Matcher.ofCondition (.field field op operand)).isMatch card = false := by
  have hordered : ∀ p, (card.find field.toList).isOrdered operand p = false := by
    intro p
    rw [hfind, Found.isOrdered, hcompare, Option.any_none]
  intro op hop
  simp only [List.mem_cons, List.not_mem_nil, or_false] at hop
  rcases hop with rfl | rfl | rfl | rfl <;> exact Matcher.isMatch_field _ ▸ hordered _

theorem isMatch_equals_iff (hfind : card.find field.toList = .one (.number (.int n))) :
    (Matcher.ofCondition (.field field .equals (.number m))).isMatch card = true ↔
      Number.nearestInt n = Number.nearestInt m := by
  rw [Matcher.isMatch_field, hfind]
  show (Number.nearestInt n == Number.nearestInt m || false) = true ↔ _
  rw [Bool.or_false, beq_iff_eq]

/-- An integer that a card holds stands to an operand as the operators of order say. Left
out are the greatest signed integer next to one that is cut down to it (`Saturates`), and
for equality any two integers with one double, which takes more than 53 bits on both sides
(`ShareDouble`). The operand may be a text as well, up to the greatest integer that counts
as a signed one; beyond it there is no order between a number and a text. -/
theorem integer_operators_follow_order (hfind : card.find field.toList = .one (.number (.int n)))
    (hmin : minInt64 ≤ n) (hm : isInt64 m = true) :
    (¬ Saturates n m → FollowsOrder card field (.number m) n m) ∧
    (n ≤ greatestNearInt64 → ¬ Saturates n m →
      FollowsOrder card field (.text (String.ofList (decimal m))) n m) ∧
    (greatestNearInt64 < n → ∀ op ∈ [Operator.above, .atLeast, .below, .atMost],
      (Matcher.ofCondition (.field field op (.text (String.ofList (decimal m))))).isMatch card =
        false) ∧
    (¬ ShareDouble n m →
      ((Matcher.ofCondition (.field field .equals (.number m))).isMatch card = true ↔ n = m)) ∧
    (n.natAbs < mantissaCount ∨ m.natAbs < mantissaCount → ¬ ShareDouble n m) ∧
    (¬ Saturates n m → ¬ ShareDouble n m →
      [Operator.below, .equals, .above].countP (fun op =>
        (Matcher.ofCondition (.field field op (.number m))).isMatch card) = 1) := by
  have hnumber : ¬ Saturates n m → FollowsOrder card field (.number m) n m := fun hsaturates =>
    followsOrder_of_compareOperand? hfind (Match.compareOperand?_number hmin hm hsaturates)
  have hequals : ¬ ShareDouble n m →
      ((Matcher.ofCondition (.field field .equals (.number m))).isMatch card = true ↔ n = m) := by
    intro hdistinct
    rw [isMatch_equals_iff hfind]
    refine ⟨fun hround => ?_, congrArg Number.nearestInt⟩
    by_contra hne
    exact hdistinct ⟨hne, hround⟩
  refine ⟨hnumber, fun hn hsaturates => ?_, fun hn => ?_, hequals,
    Match.not_shareDouble_of_natAbs_lt, fun hsaturates hdistinct => ?_⟩
  · exact followsOrder_of_compareOperand? hfind
      (Match.compareOperand?_of_integer hmin hn hm hsaturates (Match.operandInteger?_decimal hm))
  · exact not_isMatch_of_compareOperand? hfind (Match.compareOperand?_text_of_beyond hn _)
  · have horder := hnumber hsaturates
    have hequal := hequals hdistinct
    simp only [List.countP_cons, List.countP_nil, horder.below, hequal, horder.above]
    rcases Int.lt_trichotomy n m with hlt | rfl | hgt
    · rw [if_pos hlt, if_neg (Int.ne_of_lt hlt), if_neg (Int.not_lt.2 (Int.le_of_lt hlt))]
    · rw [if_neg (Int.lt_irrefl n), if_pos rfl]
    · rw [if_neg (Int.not_lt.2 (Int.le_of_lt hgt)), if_neg (Int.ne_of_gt hgt), if_pos hgt]

end Card

/-- The greatest number of 64 bits without a sign stands above the greatest one with a
sign, and has no order with its text; below 2^53 neither happens. -/
theorem integer_operators_follow_order_at_bounds :
    (FollowsOrder ⟨[("f", .number (.int 18446744073709551615))]⟩ "f"
        (.number Number.maxInt64) 18446744073709551615 Number.maxInt64 ∧
      (Matcher.ofCondition (.field "f" .above
          (.text (String.ofList (Number.decimal Number.maxInt64))))).isMatch
        ⟨[("f", .number (.int 18446744073709551615))]⟩ = false) ∧
    (FollowsOrder ⟨[("f", .number (.int 9007199254740991))]⟩ "f"
        (.text (String.ofList (Number.decimal (-7)))) 9007199254740991 (-7) ∧
      [Operator.below, .equals, .above].countP (fun op =>
        (Matcher.ofCondition (.field "f" op (.number 9007199254740992))).isMatch
          ⟨[("f", .number (.int 9007199254740991))]⟩) = 1) := by
  have hgreatest : (Card.mk [("f", .number (.int 18446744073709551615))]).find "f".toList =
      .one (.number (.int 18446744073709551615)) := rfl
  have hexact : (Card.mk [("f", .number (.int 9007199254740991))]).find "f".toList =
      .one (.number (.int 9007199254740991)) := rfl
  refine ⟨⟨?_, ?_⟩, ?_, ?_⟩
  · exact (integer_operators_follow_order hgreatest (by decide) (by decide)).1 (by decide)
  · exact (integer_operators_follow_order hgreatest (by decide) (by decide)).2.2.1 (by decide)
      .above (by decide)
  · exact (integer_operators_follow_order hexact (by decide) (by decide)).2.1 (by decide)
      (by decide)
  · have hall := integer_operators_follow_order hexact (m := 9007199254740992) (by decide)
      (by decide)
    exact hall.2.2.2.2.2 (by decide) (hall.2.2.2.2.1 (Or.inl (by decide +kernel)))

/-- Five is less than the greatest number of 64 bits without a sign, but as a text it has
no order with it. -/
theorem greatest_word_not_above_text :
    (Card.mk [("f", .number (.int 18446744073709551615))]).find "f".toList =
      .one (.number (.int 18446744073709551615)) ∧
    Number.isInt64 5 = true ∧ Number.decimal 5 = "5".toList ∧
    (5 : Int) < 18446744073709551615 ∧
    (Matcher.ofCondition (.field "f" .above (.text "5"))).isMatch
      ⟨[("f", .number (.int 18446744073709551615))]⟩ = false := by
  exact ⟨rfl, by decide, rfl, by decide, by decide +kernel⟩

end CardSearch
