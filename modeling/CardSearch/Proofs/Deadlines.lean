import CardSearch.Proofs.DueQueries
import CardSearch.Proofs.SignedYears

/-!
# Later deadlines

A query for due cards asks about an instant, and the instant is put into the condition as
text. With a year of four digits the text tells the instant, so a later deadline finds
whatever an earlier one finds. With a signed year it tells none, and the next review is
compared with it by characters (`holds_dueBy_of_isSigned`), however late the deadline is.
Deadlines of the two kinds never keep each other's cards, and of two with signed years the
later one keeps them if the texts of the years are in order
(`later_deadline_keeps_due_iff`).
-/

namespace CardSearch

open Time (Instant IsSigned yearText yearSign)

namespace Query

/-! ## Deadlines with a signed year -/

section Signed

variable {t : Instant} (hyear : IsSigned t.date.year) {card : Card} {s : String}

include hyear

theorem ofString?_text_of_isSigned : Instant.ofString? (String.ofList t.text) = none := by
  rw [Instant.ofString?, String.toList_ofList, Instant.readInstant?_text_of_isSigned hyear]

theorem readInteger?_text_of_isSigned : Match.readInteger? (String.ofList t.text) = none := by
  rw [Match.readInteger?, String.toList_ofList, Instant.trim_text_of_isSigned hyear,
    Number.readInt64?, Instant.readInt?_text]
  rfl

/-- With a signed year the next review is compared with the text of the deadline. -/
theorem holds_dueBy_of_isSigned (hs : card.fields.lookup "nextReview" = some (.string s)) :
    (dueBy t).holds card = true ↔ s.toList ≤ t.text := by
  have htexts : Match.compareTexts s (String.ofList t.text) = compare s (String.ofList t.text) := by
    rw [Match.compareTexts, ofString?_text_of_isSigned hyear]
    cases Instant.ofString? s <;> rfl
  have hcompare : Match.compareOperand? (.string s) (.text (String.ofList t.text)) =
      some (compare s (String.ofList t.text)) := by
    rw [Match.compareOperand?_text (readInteger?_text_of_isSigned hyear), Match.compareAlike?,
      htexts]
  rw [dueBy, Condition.holds, Condition.meets, Card.find_nextReview, hs]
  show (Match.compareOperand? (.string s) (.text (String.ofList t.text))).any (·.isLE) = true ↔ _
  rw [hcompare, Option.any_some, Ordering.isLE_iff_ne_gt, ← ne_eq, compare_le_iff_le,
    String.le_iff_toList_le, String.toList_ofList]

end Signed

/-! ## Two deadlines -/

/-- Whether a deadline keeps whatever is due by another one and tells when. -/
def KeepsDue (t₁ t₂ : Instant) : Prop :=
  ∀ (card : Card) (s : String) (x : Instant),
    card.fields.lookup "nextReview" = some (.string s) → Instant.ofString? s = some x →
      (dueBy t₁).holds card = true → (dueBy t₂).holds card = true

/-- The card that has a next review and nothing else. -/
def reviewedAt (s : List Char) : Card := ⟨[("nextReview", .string (String.ofList s))]⟩

theorem lookup_reviewedAt (s : List Char) :
    (reviewedAt s).fields.lookup "nextReview" = some (.string (String.ofList s)) := rfl

section Two

variable {t₁ t₂ : Instant}

theorem KeepsDue.apply (h : KeepsDue t₁ t₂) {s : List Char} {x : Instant}
    (hx : Time.readInstant? s = some x) (hdue : (dueBy t₁).holds (reviewedAt s) = true) :
    (dueBy t₂).holds (reviewedAt s) = true := by
  refine h _ _ x (lookup_reviewedAt s) ?_ hdue
  rw [Instant.ofString?, String.toList_ofList, hx]

theorem holds_reviewedAt {t x : Instant} (hyear : ¬ IsSigned t.date.year) {s : List Char}
    (hx : Time.readInstant? s = some x) :
    (dueBy t).holds (reviewedAt s) = x.notAfter t := by
  refine holds_dueBy_of_string (Time.not_isSigned_iff.1 hyear) (lookup_reviewedAt s) ?_
  rw [Instant.ofString?, String.toList_ofList, hx]

theorem holds_reviewedAt_of_isSigned {t : Instant} (hyear : IsSigned t.date.year)
    (s : List Char) : (dueBy t).holds (reviewedAt s) = true ↔ s ≤ t.text := by
  rw [holds_dueBy_of_isSigned hyear (lookup_reviewedAt s), String.toList_ofList]

theorem keepsDue_of_not_isSigned (h : t₁.notAfter t₂ = true) (h₁ : ¬ IsSigned t₁.date.year)
    (h₂ : ¬ IsSigned t₂.date.year) : KeepsDue t₁ t₂ := by
  intro card s x hs hx hdue
  rw [holds_dueBy_of_string (Time.not_isSigned_iff.1 h₁) hs hx] at hdue
  rw [holds_dueBy_of_string (Time.not_isSigned_iff.1 h₂) hs hx]
  exact Instant.notAfter_trans hdue h

theorem keepsDue_of_text_le_text (h : t₁.text ≤ t₂.text) (h₁ : IsSigned t₁.date.year)
    (h₂ : IsSigned t₂.date.year) : KeepsDue t₁ t₂ := by
  intro card s x hs hx hdue
  rw [holds_dueBy_of_isSigned h₁ hs] at hdue
  rw [holds_dueBy_of_isSigned h₂ hs]
  exact le_trans hdue h

theorem text_le_text_of_yearText_le (h : t₁.notAfter t₂ = true)
    (hfraction : t₁.fraction = t₂.fraction) (h₁ : IsSigned t₁.date.year)
    (h₂ : IsSigned t₂.date.year) (hle : yearText t₁.date.year ≤ yearText t₂.date.year) :
    t₁.text ≤ t₂.text := by
  rcases le_iff_eq_or_lt.1 hle with heq | hlt
  · exact Instant.text_le_text h (Time.yearText_injective h₁ h₂ heq) hfraction
  · rw [Instant.text_eq_fields, Instant.text_eq_fields]
    exact le_of_lt (Time.yearText_append_lt h₁ h₂ hlt _ _)

/-- What is reviewed at a deadline of a four-digit year is not due by one after the year 9999. -/
theorem not_keepsDue_of_isSigned_right (h : t₁.notAfter t₂ = true) (h₁ : ¬ IsSigned t₁.date.year)
    (h₂ : IsSigned t₂.date.year) : ¬ KeepsDue t₁ t₂ := by
  intro hkeeps
  have hplain := Time.not_isSigned_iff.1 h₁
  have hread := Instant.readInstant?_text hplain
  have hdue : (dueBy t₁).holds (reviewedAt t₁.text) = true := by
    rw [holds_reviewedAt h₁ hread, Instant.notAfter_eq_true_iff]
    omega
  have hle := (holds_reviewedAt_of_isSigned h₂ _).1 (hkeeps.apply hread hdue)
  obtain ⟨c, rest, htext, hdigit⟩ := Instant.head_text hplain
  have hsign : yearSign t₂.date.year = '+' := by
    have hyears := Instant.year_le_of_notAfter h
    exact if_neg (by omega)
  rw [htext, Instant.text_eq_fields, Time.yearText_of_isSigned h₂, hsign] at hle
  have hlt : '+' < c := Time.lt_of_isDigit (by decide) hdigit
  exact absurd (List.cons_lt_cons_iff.2 (Or.inl hlt)) (not_lt.2 hle)

theorem not_keepsDue_of_isSigned_left (h : t₁.notAfter t₂ = true) (h₁ : IsSigned t₁.date.year)
    (h₂ : ¬ IsSigned t₂.date.year) : ¬ KeepsDue t₁ t₂ := by
  intro hkeeps
  have hplain := Time.not_isSigned_iff.1 h₂
  -- A plus comes before the minus of the deadline, however late the year behind it is.
  have hread : Time.readInstant? "+10000-01-01".toList = some (.ofSeconds 253402300800) := by cbv
  have hdue : (dueBy t₁).holds (reviewedAt "+10000-01-01".toList) = true := by
    have hsign : yearSign t₁.date.year = '-' := by
      have hyears := Instant.year_le_of_notAfter h
      rw [IsSigned] at h₁
      exact if_pos (by omega)
    rw [holds_reviewedAt_of_isSigned h₁, Instant.text_eq_fields, Time.yearText_of_isSigned h₁,
      hsign]
    exact le_of_lt (List.cons_lt_cons_iff.2 (Or.inl (by decide)))
  have hkept := hkeeps.apply hread hdue
  rw [holds_reviewedAt h₂ hread] at hkept
  have hyears := Instant.year_le_of_notAfter hkept
  have hfar : (Instant.ofSeconds 253402300800).date.year = 10000 := by cbv
  omega

theorem not_keepsDue_of_yearText_lt (hrange : t₁.date.isInRange = true)
    (h₁ : IsSigned t₁.date.year) (h₂ : IsSigned t₂.date.year)
    (hlt : yearText t₂.date.year < yearText t₁.date.year) : ¬ KeepsDue t₁ t₂ := by
  intro hkeeps
  -- The date alone is read, begins the text of its deadline and comes after the other text.
  obtain ⟨x, hx⟩ := Time.exists_readInstant?_dateText h₁
    (Time.Date.dayNumber_ofDayNumber t₁.dayNumber).2 hrange
  have hdue : (dueBy t₁).holds (reviewedAt t₁.date.text) = true := by
    rw [holds_reviewedAt_of_isSigned h₁, Instant.text, List.append_assoc]
    exact Time.le_append _ _
  have hle := (holds_reviewedAt_of_isSigned h₂ _).1 (hkeeps.apply hx hdue)
  rw [Time.Date.text_eq_fields, Instant.text_eq_fields] at hle
  exact absurd (Time.yearText_append_lt h₂ h₁ hlt _ _) (not_lt.2 hle)

theorem keepsDue_iff (h : t₁.notAfter t₂ = true) (hfraction : t₁.fraction = t₂.fraction)
    (hrange : t₁.date.isInRange = true) :
    KeepsDue t₁ t₂ ↔
      (¬ IsSigned t₁.date.year ∧ ¬ IsSigned t₂.date.year) ∨
      (IsSigned t₁.date.year ∧ IsSigned t₂.date.year ∧
        yearText t₁.date.year ≤ yearText t₂.date.year) := by
  by_cases h₁ : IsSigned t₁.date.year
  · by_cases h₂ : IsSigned t₂.date.year
    · simp only [h₁, h₂, not_true_eq_false, and_self, false_or, true_and]
      refine ⟨fun hkeeps => ?_, fun hle => ?_⟩
      · exact not_lt.1 fun hlt => not_keepsDue_of_yearText_lt hrange h₁ h₂ hlt hkeeps
      · exact keepsDue_of_text_le_text (text_le_text_of_yearText_le h hfraction h₁ h₂ hle) h₁ h₂
    · simp only [h₁, h₂, not_true_eq_false, false_and, and_false, or_self, iff_false]
      exact not_keepsDue_of_isSigned_left h h₁ h₂
  · by_cases h₂ : IsSigned t₂.date.year
    · simp only [h₁, h₂, not_true_eq_false, false_and, and_false, or_self, iff_false]
      exact not_keepsDue_of_isSigned_right h h₁ h₂
    · simp only [h₁, h₂, not_false_eq_true, and_self, true_or, iff_true]
      exact keepsDue_of_not_isSigned h h₁ h₂

end Two

/-- When a later deadline keeps the due cards: if both deadlines have a year of four digits, or
both have a signed year and the texts of the years are in order, and in no other case. -/
theorem later_deadline_keeps_due_iff {now t₁ t₂ : Instant} {d₁ d₂ : List Char} {n₁ n₂ : Int}
    (hspan₁ : Time.readSpan? d₁ = some n₁) (hspan₂ : Time.readSpan? d₂ = some n₂) (hle : n₁ ≤ n₂)
    (hadd₁ : now.add? n₁ = some t₁) (hadd₂ : now.add? n₂ = some t₂) :
    ∃ q₁ q₂, (parse now ("due".toList ++ ':' :: d₁)).result = .ok q₁ ∧
      (parse now ("due".toList ++ ':' :: d₂)).result = .ok q₂ ∧
      ((∀ (card : Card) (s : String) (x : Instant),
          card.fields.lookup "nextReview" = some (.string s) → Instant.ofString? s = some x →
            (Matcher.ofCondition q₁.condition).isMatch card = true →
              (Matcher.ofCondition q₂.condition).isMatch card = true) ↔
        (¬ IsSigned t₁.date.year ∧ ¬ IsSigned t₂.date.year) ∨
        (IsSigned t₁.date.year ∧ IsSigned t₂.date.year ∧
          yearText t₁.date.year ≤ yearText t₂.date.year)) := by
  obtain ⟨rfl, hrange⟩ := Instant.eq_shift_of_add? hadd₁
  obtain ⟨rfl, -⟩ := Instant.eq_shift_of_add? hadd₂
  have horder := Instant.notAfter_shift hle now
  have hfraction := (Instant.fraction_shift now n₁).trans (Instant.fraction_shift now n₂).symm
  refine ⟨_, _, parse_dueQuery hspan₁ hadd₁ .due, parse_dueQuery hspan₂ hadd₂ .due, ?_⟩
  simp only [Matcher.isMatch_ofCondition, Condition.holds_all_singleton]
  exact keepsDue_iff horder hfraction hrange

/-- Between deadlines of a day ago and of a day ahead nothing is lost. -/
theorem later_deadline_keeps_due_iff_day_ahead :
    Time.readSpan? "-1d".toList = some (-86400) ∧ Time.readSpan? "1d".toList = some 86400 ∧
    Instant.add? (.ofSeconds 0) (-86400) = some (.ofSeconds (-86400)) ∧
    Instant.add? (.ofSeconds 0) 86400 = some (.ofSeconds 86400) ∧
    ∃ q₁ q₂, (parse (.ofSeconds 0) ("due".toList ++ ':' :: "-1d".toList)).result = .ok q₁ ∧
      (parse (.ofSeconds 0) ("due".toList ++ ':' :: "1d".toList)).result = .ok q₂ ∧
      ∀ (card : Card) (s : String) (x : Instant),
        card.fields.lookup "nextReview" = some (.string s) → Instant.ofString? s = some x →
          (Matcher.ofCondition q₁.condition).isMatch card = true →
            (Matcher.ofCondition q₂.condition).isMatch card = true := by
  have hspan₁ : Time.readSpan? "-1d".toList = some (-86400) := by cbv
  have hspan₂ : Time.readSpan? "1d".toList = some 86400 := by cbv
  have hadd₁ : Instant.add? (.ofSeconds 0) (-86400) = some (.ofSeconds (-86400)) := by cbv
  have hadd₂ : Instant.add? (.ofSeconds 0) 86400 = some (.ofSeconds 86400) := by cbv
  obtain ⟨q₁, q₂, hq₁, hq₂, hiff⟩ :=
    later_deadline_keeps_due_iff hspan₁ hspan₂ (by decide) hadd₁ hadd₂
  exact ⟨hspan₁, hspan₂, hadd₁, hadd₂, q₁, q₂, hq₁, hq₂, hiff.2 (Or.inl ⟨by decide, by decide⟩)⟩

/-- A card of 2020 is due in 2026, but not by a deadline 8000 years later. -/
theorem far_deadline_hides_due :
    let now := Instant.ofSeconds 1792411200
    let card : Card := ⟨[("nextReview", .string "2020-01-01")]⟩
    Time.readSpan? "NOW".toList = some 0 ∧ Time.readSpan? "8000y".toList = some 252288000000 ∧
    now.add? 0 = some now ∧ now.add? 252288000000 = some (.ofSeconds 254080411200) ∧
    Instant.ofString? "2020-01-01" = some (.ofSeconds 1577836800) ∧
    ∃ q₁ q₂, (parse now ("due".toList ++ ':' :: "NOW".toList)).result = .ok q₁ ∧
      (parse now ("due".toList ++ ':' :: "8000y".toList)).result = .ok q₂ ∧
      (Matcher.ofCondition q₁.condition).isMatch card = true ∧
      (Matcher.ofCondition q₂.condition).isMatch card = false := by
  intro now card
  have hspan₁ : Time.readSpan? "NOW".toList = some 0 := by cbv
  have hspan₂ : Time.readSpan? "8000y".toList = some 252288000000 := by cbv
  have hadd₁ : now.add? 0 = some now := by cbv
  have hadd₂ : now.add? 252288000000 = some (.ofSeconds 254080411200) := by cbv
  have hread : Instant.ofString? "2020-01-01" = some (.ofSeconds 1577836800) := by cbv
  have htext : (Instant.ofSeconds 254080411200).text = "+10021-06-27T12:00:00Z".toList := by cbv
  have hs : card.fields.lookup "nextReview" = some (.string "2020-01-01") := rfl
  refine ⟨hspan₁, hspan₂, hadd₁, hadd₂, hread, _, _, parse_dueQuery hspan₁ hadd₁ .due,
    parse_dueQuery hspan₂ hadd₂ .due, ?_, ?_⟩
  · rw [Matcher.isMatch_ofCondition, Condition.holds_all_singleton,
      holds_dueBy_of_string (by decide) hs hread]
    decide
  · rw [Matcher.isMatch_ofCondition, Condition.holds_all_singleton, Bool.eq_false_iff, ne_eq,
      holds_dueBy_of_isSigned (by decide) hs, htext, not_le]
    decide

end Query

end CardSearch
