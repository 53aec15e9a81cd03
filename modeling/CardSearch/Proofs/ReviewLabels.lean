import CardSearch.Proofs.DueQueries
import CardSearch.Report.Review

/-!
# Review labels and queries for due cards

The label of a card is made from two instants, the query `is:due` compares a text
that was printed with a text on the card. They agree because both come down to
`notAfter`: the one asks for it, and the other does so by way of the instants that
the texts tell (`holds_dueBy_of_string`).

How much time a label tells is another matter. The time between two instants in
their order is not negative, but for a leap second at its beginning, where it may
lack up to a second (`neg_second_lt_nanosSince`). Cutting towards nothing makes
this no time at all, so that what is told is the number of whole minutes, hours
and days in `elapsed`.
-/

namespace CardSearch

namespace Time.Instant

/-! ## The time between two instants -/

/-- Nanoseconds from the second instant to the first; none if the first is the earlier one. -/
def elapsed (a b : Instant) : Nat := (a.nanosSince b).toNat

/-- Nanoseconds from the second instant to the first by what a clock without leap seconds reads. -/
def clockDifference (a b : Instant) : Int :=
  (a.seconds - b.seconds) * nanosPerSecond + ((a.nanos : Int) - b.nanos)

theorem nanosSince_of_not_isLeap {a b : Instant} (ha : a.isLeap = false) (hb : b.isLeap = false) :
    a.nanosSince b = clockDifference a b := by
  unfold clockDifference nanosSince secondOfDay dayNumber secondsPerDay nanosPerSecond
  rw [ha, hb]
  simp only [Bool.false_eq_true, and_false, if_false]
  omega

/-- From an earlier instant to a later one it is never a second less than nothing. -/
theorem neg_second_lt_nanosSince {a b : Instant} (h : b.notAfter a = true) :
    -(nanosPerSecond : Int) < a.nanosSince b := by
  have hkept := a.nanos_lt
  have hpart := b.nanos_lt
  rw [notAfter_eq_true_iff] at h
  unfold nanosSince secondOfDay dayNumber secondsPerDay isLeap
  unfold nanosPerSecond at *
  simp only [decide_eq_true_eq]
  -- Three cases: the leap second is counted at the beginning, taken back at the end, or left out.
  split
  · omega
  · split
    · omega
    · omega

/-- Cutting towards nothing forgets what lies less than a unit below it. -/
theorem tdiv_eq_of_neg_lt {n : Int} {unit : Nat} (h : -(unit : Int) < n) :
    n.tdiv unit = ((n.toNat / unit : Nat) : Int) := by
  rcases Int.lt_or_le n 0 with hneg | hpos
  · have hnone : (-n).tdiv unit = 0 := Int.tdiv_eq_zero_of_lt (by omega) (by omega)
    rw [Int.toNat_of_nonpos (Int.le_of_lt hneg), Nat.zero_div, ← Int.neg_neg n, Int.neg_tdiv, hnone]
    rfl
  · obtain ⟨m, rfl⟩ := Int.eq_ofNat_of_zero_le hpos
    rw [Int.toNat_natCast, Int.ofNat_tdiv]

section Later

variable {a b : Instant} (h : b.notAfter a = true)
include h

theorem secondsSince_eq : a.secondsSince b = ((a.elapsed b / nanosPerSecond : Nat) : Int) :=
  tdiv_eq_of_neg_lt (neg_second_lt_nanosSince h)

theorem minutesSince_eq :
    a.minutesSince b = ((a.elapsed b / (nanosPerSecond * 60) : Nat) : Int) := by
  rw [minutesSince, secondsSince_eq h, ← Nat.div_div_eq_div_mul]
  exact (Int.ofNat_tdiv _ 60).symm

theorem hoursSince_eq :
    a.hoursSince b = ((a.elapsed b / (nanosPerSecond * 3600) : Nat) : Int) := by
  rw [hoursSince, secondsSince_eq h, ← Nat.div_div_eq_div_mul]
  exact (Int.ofNat_tdiv _ 3600).symm

theorem daysSince_eq :
    a.daysSince b = ((a.elapsed b / (nanosPerSecond * 86400) : Nat) : Int) := by
  rw [daysSince, secondsSince_eq h, ← Nat.div_div_eq_div_mul]
  exact (Int.ofNat_tdiv _ 86400).symm

end Later

theorem notAfter_total (a b : Instant) : a.notAfter b = true ∨ b.notAfter a = true := by
  rw [notAfter_eq_true_iff, notAfter_eq_true_iff]
  omega

end Time.Instant

namespace Report

open Number (digits decimal)
open Time (Instant Date nanosPerSecond)

/-! ## The wording of a label -/

def nanosPerMinute : Nat := nanosPerSecond * 60
def nanosPerHour : Nat := nanosPerSecond * 3600
def nanosPerDay : Nat := nanosPerSecond * 86400

/-- The words for a card that has been due for a number of days. -/
def dueWords : Nat → List Char
  | 0 => "due".toList
  | 1 => "due 1 day ago".toList
  | n => "due ".toList ++ digits n ++ " days ago".toList

/-- The words for a card that will be due on a date, given the nanoseconds till then. -/
inductive AheadWords (ahead : Nat) (date : Date) : List Char → Prop where
  | minutes (n : Nat) (least : 1 ≤ n) (most : n ≤ 59) (near : ahead < nanosPerHour)
      (whole : n = max (ahead / nanosPerMinute) 1) :
      AheadWords ahead date ("in ".toList ++ digits n ++ ['m'])
  | hours (n : Nat) (least : 1 ≤ n) (most : n ≤ 23) (near : ahead < nanosPerDay)
      (whole : n = ahead / nanosPerHour) : AheadWords ahead date ("in ".toList ++ digits n ++ ['h'])
  | days (n : Nat) (least : 1 ≤ n) (most : n ≤ 29) (whole : n = ahead / nanosPerDay) :
      AheadWords ahead date ("in ".toList ++ digits n ++ ['d'])
  | date (far : 30 * nanosPerDay ≤ ahead) : AheadWords ahead date date.text

theorem text_due (n : Nat) : (ReviewLabel.due n).text = dueWords n := by
  match n with
  | 0 => rfl
  | 1 => rfl
  | n + 2 => rfl

theorem text_ofInstant_of_notAfter {now t : Instant} (h : t.notAfter now = true) :
    (ReviewLabel.ofInstant now t).text = dueWords (now.elapsed t / nanosPerDay) := by
  rw [ReviewLabel.ofInstant, if_pos h, Instant.daysSince_eq h]
  exact text_due _

/-- Without leap seconds the days are those that have gone by on the clock. -/
theorem days_of_not_isLeap {now t : Instant} (hnow : now.isLeap = false) (ht : t.isLeap = false)
    (h : t.notAfter now = true) :
    ((now.elapsed t / nanosPerDay : Nat) : Int) * nanosPerDay ≤ now.clockDifference t ∧
      now.clockDifference t < ((now.elapsed t / nanosPerDay : Nat) + 1) * nanosPerDay := by
  have hclock := Instant.nanosSince_of_not_isLeap hnow ht
  have hnonneg : 0 ≤ now.clockDifference t := by
    have hpart : t.nanos < nanosPerSecond := Nat.lt_of_not_le (of_decide_eq_false ht)
    rw [Instant.notAfter_eq_true_iff] at h
    unfold Instant.clockDifference
    unfold nanosPerSecond at *
    omega
  rw [Instant.elapsed, hclock]
  generalize now.clockDifference t = difference at hnonneg
  unfold nanosPerDay nanosPerSecond
  omega

/-- Below each bound the label counts the unit under it, and at least one of it. -/
theorem aheadWords_ofInstant {now t : Instant} (h : t.notAfter now = false) :
    AheadWords (t.elapsed now) t.date (ReviewLabel.ofInstant now t).text := by
  have hlater : now.notAfter t = true := by
    rcases Instant.notAfter_total now t with hnow | ht
    · exact hnow
    · rw [h] at ht
      cases ht
  unfold ReviewLabel.ofInstant
  rw [h, if_neg Bool.false_ne_true, Instant.hoursSince_eq hlater, Instant.minutesSince_eq hlater,
    Instant.daysSince_eq hlater, ReviewLabel.farAhead]
  generalize t.elapsed now = ahead
  -- One unit is counted until the next larger one is full.
  split
  · next hhours =>
      have hmax : max ((ahead / (nanosPerSecond * 60) : Nat) : Int) 1 =
          ((max (ahead / nanosPerMinute) 1 : Nat) : Int) := by
        rw [nanosPerMinute]
        omega
      rw [hmax]
      refine .minutes (max (ahead / nanosPerMinute) 1) (Nat.le_max_right _ _) ?_ ?_ rfl
      · unfold nanosPerMinute nanosPerSecond at *
        omega
      · unfold nanosPerHour nanosPerSecond at *
        omega
  · next hhours =>
      split
      · next hdays =>
          refine .hours (ahead / nanosPerHour) ?_ ?_ ?_ rfl
          · unfold nanosPerHour nanosPerSecond at *
            omega
          · unfold nanosPerHour nanosPerSecond at *
            omega
          · unfold nanosPerDay nanosPerSecond at *
            omega
      · next hdays =>
          split
          · next hfar =>
              refine .days (ahead / nanosPerDay) ?_ ?_ rfl
              · unfold nanosPerDay nanosPerSecond at *
                omega
              · unfold nanosPerDay nanosPerSecond at *
                omega
          · next hfar =>
              refine .date ?_
              unfold nanosPerDay nanosPerSecond at *
              omega

/-- Only the words for a card that is due begin as they do. -/
theorem due_isPrefixOf_dueWords (n : Nat) : "due".toList <+: dueWords n := by
  match n with
  | 0 => exact List.prefix_refl _
  | 1 => exact ⟨" 1 day ago".toList, rfl⟩
  | n + 2 => exact ⟨' ' :: (digits (n + 2) ++ " days ago".toList), rfl⟩

theorem head_dateText (d : Date) : ∀ c ∈ d.text.head?, c ≠ 'd' := by
  have hyear : ∀ c ∈ (Time.yearText d.year).head?, c ≠ 'd' := by
    unfold Time.yearText
    split
    · intro c hc
      have hdigit := Number.isDigit_of_mem_padded (List.mem_of_head? hc)
      rintro rfl
      cases hdigit
    · intro c hc
      obtain rfl := Option.some.inj hc
      split <;> decide
  intro c hc
  -- The year is never empty, but the hyphen after it would do as well.
  cases htext : Time.yearText d.year with
  | nil =>
      rw [Date.text, htext] at hc
      obtain rfl := Option.some.inj hc
      decide
  | cons e rest =>
      rw [Date.text, htext] at hc
      rw [htext] at hyear
      exact hyear c hc

theorem AheadWords.not_due {ahead : Nat} {date : Date} {words : List Char}
    (h : AheadWords ahead date words) : ¬ "due".toList <+: words := by
  have hhead : ∀ c ∈ words.head?, c ≠ 'd' := by
    cases h with
    | minutes | hours | days =>
        intro c hc
        obtain rfl := Option.some.inj hc
        decide
    | date => exact head_dateText date
  rintro ⟨rest, rfl⟩
  exact hhead 'd' rfl rfl

/-! ## Labels and the query -/

/-- The label of a card whose next review is an instant begins with "due" exactly
if the query for due cards finds the card. It then tells for how many whole days,
and otherwise in how many minutes, hours or days the card will be due, or from
thirty days on at which date. -/
theorem label_tells_due_iff_found {now x : Instant} {card : Card} {s : String}
    (hyear : 0 ≤ now.date.year ∧ now.date.year ≤ 9999)
    (hs : card.fields.lookup "nextReview" = some (.string s))
    (hx : Instant.ofString? s = some x) :
    ∃ q, (Query.parse now "is:due".toList).result = .ok q ∧
      let found := (Matcher.ofCondition q.condition).isMatch card
      let label := (ReviewLabel.ofText now (card.string? "nextReview")).shown false
      ("due".toList <+: label ↔ found = true) ∧
        (found = true → ∃ days, label = dueWords days ∧ days = now.elapsed x / nanosPerDay ∧
          (now.isLeap = false → x.isLeap = false →
            (days : Int) * nanosPerDay ≤ now.clockDifference x ∧
              now.clockDifference x < (days + 1) * nanosPerDay)) ∧
        (found = false → AheadWords (x.elapsed now) x.date label) := by
  refine ⟨_, Query.parse_dueQuery (d := Time.nowName) rfl (Query.add?_zero hyear)
    (.shortcut rfl), ?_⟩
  have hfound : (Matcher.ofCondition (Condition.all [Query.dueBy now])).isMatch card =
      x.notAfter now := by
    rw [Matcher.isMatch_ofCondition, Condition.holds_all_singleton]
    exact Query.holds_dueBy_of_string hyear hs hx
  have hlabel : (ReviewLabel.ofText now (card.string? "nextReview")).shown false =
      (ReviewLabel.ofInstant now x).text := by
    rw [Card.string?_eq_some_iff.2 hs, ReviewLabel.shown_false, ReviewLabel.ofText]
    simp only [hx]
  simp only [hfound, hlabel]
  cases hdue : x.notAfter now with
  | true =>
      have hwords := text_ofInstant_of_notAfter hdue
      refine ⟨⟨fun _ => rfl, fun _ => ?_⟩, fun _ => ⟨_, hwords, rfl, ?_⟩,
        fun hnot => (nomatch hnot)⟩
      · rw [hwords]
        exact due_isPrefixOf_dueWords _
      · exact fun hnow hcard => days_of_not_isLeap hnow hcard hdue
  | false =>
      have hwords := aheadWords_ofInstant hdue
      exact ⟨⟨fun hprefix => absurd hprefix hwords.not_due, fun hnot => (nomatch hnot)⟩,
        fun hnot => (nomatch hnot), fun _ => hwords⟩

/-- In a leap second the clock may read more than it does a moment later. -/
theorem label_tells_due_iff_found_leap_second :
    let now : Instant := ⟨86400, 100000000, .inl (by decide)⟩
    let card : Card := ⟨[("nextReview", .string "1970-01-01T23:59:60.9Z")]⟩
    now.nanosSince ⟨86399, 1900000000, .inr (by decide)⟩ = -800000000 ∧
      ∃ q, (Query.parse now "is:due".toList).result = .ok q ∧
        (Matcher.ofCondition q.condition).isMatch card = true ∧
        (ReviewLabel.ofText now (card.string? "nextReview")).shown false = "due".toList := by
  intro now card
  have hread : Instant.ofString? "1970-01-01T23:59:60.9Z" =
      some ⟨86399, 1900000000, .inr (by decide)⟩ := by
    decide +kernel
  have hlabel : (ReviewLabel.ofText now (card.string? "nextReview")).shown false =
      "due".toList := by
    decide +kernel
  have hnext : card.fields.lookup "nextReview" = some (.string "1970-01-01T23:59:60.9Z") := rfl
  have hyear : 0 ≤ now.date.year ∧ now.date.year ≤ 9999 := by decide
  obtain ⟨q, hq, hdue, -, -⟩ := label_tells_due_iff_found hyear hnext hread
  refine ⟨by decide, q, hq, hdue.1 ?_, hlabel⟩
  rw [hlabel]

end Report

end CardSearch
