import CardSearch.Proofs.InstantText

/-!
# The order of instants and of their texts

A longer span leads to a later instant, in a leap second too (`notAfter_shift`), and
leaves the fraction of the second as it is. Behind the year the text of an instant is made
of fields of one width, so two instants of one year and one fraction have texts in their
own order (`text_le_text`). Years with a sign have as many digits as they need, so what
decides between two of those is the order of their texts (`yearText_append_lt`).
-/

namespace CardSearch

namespace Time

open Number (padded)

namespace Instant

/-! ## Instants a span away -/

theorem notAfter_trans {a b c : Instant} (hab : a.notAfter b = true) (hbc : b.notAfter c = true) :
    a.notAfter c = true := by
  rw [notAfter_eq_true_iff] at *
  omega

theorem notAfter_shift {n m : Int} (h : n ≤ m) (t : Instant) :
    (t.shift n).notAfter (t.shift m) = true := by
  have hnanos := t.nanos_lt
  rw [notAfter_eq_true_iff, shift, shift]
  split
  · simp only
    omega
  · -- Out of a leap second: earlier, not at all or later.
    split_ifs <;> simp only [true_and] <;> omega

theorem fraction_shift (t : Instant) (n : Int) : (t.shift n).fraction = t.fraction := by
  have hnanos := t.nanos_lt
  simp only [fraction, isLeap, decide_eq_true_eq]
  rw [shift]
  split_ifs <;> simp only at * <;> omega

theorem eq_shift_of_add? {now t : Instant} {n : Int} (h : now.add? n = some t) :
    t = now.shift n ∧ t.date.isInRange = true := by
  obtain ⟨hrange, hshift⟩ := Option.ite_none_right_eq_some.1 h
  obtain rfl := Option.some.inj hshift
  exact ⟨rfl, hrange⟩

theorem year_le_of_notAfter {a b : Instant} (h : a.notAfter b = true) :
    a.date.year ≤ b.date.year := by
  have hday : a.dayNumber ≤ b.dayNumber := by
    rw [notAfter_eq_true_iff] at h
    rw [dayNumber, dayNumber, secondsPerDay]
    omega
  have ha := (yearStart_yearOf a.dayNumber).1
  have hb := (yearStart_yearOf b.dayNumber).2
  refine Int.not_lt.1 fun hlt => ?_
  have hyear := yearStart_strictMono (show yearOf b.dayNumber < yearOf a.dayNumber from hlt)
  omega

end Instant

/-! ## Fields of two digits -/

theorem padded_two {n : Nat} (h : n < 100) :
    padded 2 n = [Nat.digitChar (n / 10), Nat.digitChar (n % 10)] := by
  have hall : ∀ n < 100, padded 2 n = [Nat.digitChar (n / 10), Nat.digitChar (n % 10)] := by
    decide +kernel
  exact hall n h

/-- The greater of two fields decides, whatever stands behind. -/
theorem padded_lt_padded {a b : Nat} (h : a < b) (hb : b < 100) (r r' : List Char) :
    padded 2 a ++ r < padded 2 b ++ r' := by
  have hdigit : ∀ d < 10, ∀ e < 10, d < e → Nat.digitChar d < Nat.digitChar e := by decide
  rw [padded_two (Nat.lt_trans h hb), padded_two hb]
  refine List.cons_lt_cons_iff.2 ?_
  rcases Nat.lt_or_eq_of_le (Nat.div_le_div_right (c := 10) (Nat.le_of_lt h)) with hlt | heq
  · exact Or.inl (hdigit _ (by omega) _ (by omega) hlt)
  · rw [heq]
    refine Or.inr ⟨rfl, List.cons_lt_cons_iff.2 (Or.inl ?_)⟩
    exact hdigit _ (by omega) _ (by omega) (by omega)

theorem append_le_append {r r' : List Char} (h : r ≤ r') (s : List Char) : s ++ r ≤ s ++ r' := by
  rcases le_iff_eq_or_lt.1 h with rfl | hlt
  · exact le_rfl
  · exact le_of_lt (List.append_left_lt hlt)

theorem le_append (s r : List Char) : s ≤ s ++ r := by
  cases r with
  | nil => rw [List.append_nil]
  | cons c r =>
      have hlt : s ++ [] < s ++ c :: r := List.append_left_lt (List.nil_lt_cons c r)
      rw [List.append_nil] at hlt
      exact le_of_lt hlt

theorem padded_le_padded {a b : Nat} {r r' : List Char} (h : a < b ∨ a = b ∧ r ≤ r')
    (hb : b < 100) : padded 2 a ++ r ≤ padded 2 b ++ r' := by
  rcases h with hlt | ⟨rfl, hle⟩
  · exact le_of_lt (padded_lt_padded hlt hb r r')
  · exact append_le_append hle _

theorem cons_le_cons {r r' : List Char} (h : r ≤ r') (c : Char) : c :: r ≤ c :: r' :=
  append_le_append h [c]

/-! ## Instants of one year -/

/-- A month begins after the days of the months before it. -/
theorem monthStart_add_le : ∀ leap, ∀ m < 13, ∀ m' < m, 0 < m' →
    monthStart leap m' + (monthLengths leap).getD (m' - 1) 0 ≤ monthStart leap m := by
  decide

/-- Of two days of a year the later one has the later month, or the later day in the month. -/
theorem Date.lt_of_dayNumber_lt {d e : Date} (hd : d.isValid = true) (he : e.isValid = true)
    (hyear : d.year = e.year) (h : d.dayNumber < e.dayNumber) :
    d.month < e.month ∨ d.month = e.month ∧ d.day < e.day := by
  simp only [Date.isValid, Bool.and_eq_true, decide_eq_true_eq] at hd he
  rw [dayNumber, dayNumber, ← hyear] at h
  rw [← hyear] at he
  rcases Nat.lt_trichotomy d.month e.month with hlt | heq | hgt
  · exact Or.inl hlt
  · rw [heq] at h
    exact Or.inr ⟨heq, by omega⟩
  · have hstart := monthStart_add_le (isLeapYear d.year) d.month (by omega) e.month hgt (by omega)
    omega

namespace Instant

variable {a b : Instant}

theorem month_day_of_notAfter (h : a.notAfter b = true) (hyear : a.date.year = b.date.year) :
    a.dayNumber = b.dayNumber ∨ a.parts.month < b.parts.month ∨
      a.parts.month = b.parts.month ∧ a.parts.day < b.parts.day := by
  obtain ⟨hda, hva⟩ := Date.dayNumber_ofDayNumber a.dayNumber
  obtain ⟨hdb, hvb⟩ := Date.dayNumber_ofDayNumber b.dayNumber
  have hday : a.dayNumber ≤ b.dayNumber := by
    rw [notAfter_eq_true_iff] at h
    rw [dayNumber, dayNumber, secondsPerDay]
    omega
  rcases Int.lt_or_eq_of_le hday with hlt | heq
  · rw [← hda, ← hdb] at hlt
    exact Or.inr (Date.lt_of_dayNumber_lt hva hvb hyear hlt)
  · exact Or.inl heq

/-- On one day the clock decides, a leap second coming after the second before it. -/
theorem clock_of_notAfter (h : a.notAfter b = true) (hday : a.dayNumber = b.dayNumber) :
    a.parts.hour < b.parts.hour ∨ a.parts.hour = b.parts.hour ∧
      (a.parts.minute < b.parts.minute ∨ a.parts.minute = b.parts.minute ∧
        a.parts.second ≤ b.parts.second) := by
  obtain ⟨hah, ham, has, haleap, haseconds⟩ := epochSeconds_parts a
  obtain ⟨hbh, hbm, hbs, hbleap, hbseconds⟩ := epochSeconds_parts b
  have hadate : a.parts.date.dayNumber = a.dayNumber :=
    (Date.dayNumber_ofDayNumber a.dayNumber).1
  have hbdate : b.parts.date.dayNumber = b.dayNumber :=
    (Date.dayNumber_ofDayNumber b.dayNumber).1
  have hleap : a.nanos ≤ b.nanos → a.parts.second = 60 → b.parts.second = 60 := by
    intro hnanos hsecond
    rw [Parts.isLeap, Bool.eq_iff_iff, beq_iff_eq, isLeap, decide_eq_true_eq] at haleap hbleap
    exact hbleap.2 (Nat.le_trans (haleap.1 hsecond) hnanos)
  rw [Parts.epochSeconds, hadate, secondsPerDay] at haseconds
  rw [Parts.epochSeconds, hbdate, ← hday, secondsPerDay] at hbseconds
  rw [notAfter_eq_true_iff] at h
  omega

/-- Instants of one year and one fraction of a second have texts in their order. -/
theorem text_le_text (h : a.notAfter b = true) (hyear : a.date.year = b.date.year)
    (hfraction : a.fraction = b.fraction) : a.text ≤ b.text := by
  obtain ⟨hmonth, hday⟩ := Date.day_le_of_isValid (Date.dayNumber_ofDayNumber b.dayNumber).2
  obtain ⟨hhour, hminute, hsecond, -, -⟩ := epochSeconds_parts b
  have htail : a.parts.nanos = b.parts.nanos := hfraction
  rw [text_eq_fields, text_eq_fields, hyear, htail]
  refine append_le_append (cons_le_cons ?_ _) _
  -- The first field that differs decides, and on one day it is a field of the clock.
  rcases month_day_of_notAfter h hyear with hsame | hlt | ⟨heq, hlt⟩
  · have hdate : a.date = b.date := congrArg Date.ofDayNumber hsame
    have hparts : a.parts.month = b.parts.month ∧ a.parts.day = b.parts.day :=
      ⟨congrArg Date.month hdate, congrArg Date.day hdate⟩
    rw [hparts.1, hparts.2]
    refine append_le_append (cons_le_cons (append_le_append (cons_le_cons ?_ _) _) _) _
    have hclock := clock_of_notAfter h hsame
    refine padded_le_padded ?_ (by omega)
    refine hclock.imp_right (And.imp_right fun hclock => cons_le_cons ?_ _)
    refine padded_le_padded ?_ (by omega)
    refine hclock.imp_right (And.imp_right fun hclock => cons_le_cons ?_ _)
    refine padded_le_padded ?_ (by omega)
    exact (Nat.lt_or_eq_of_le hclock).imp_right fun heq => ⟨heq, le_rfl⟩
  · exact padded_le_padded (Or.inl hlt) (Nat.lt_of_le_of_lt hmonth (by decide))
  · refine padded_le_padded (Or.inr ⟨heq, cons_le_cons ?_ _⟩)
      (Nat.lt_of_le_of_lt hmonth (by decide))
    exact padded_le_padded (Or.inl hlt) (Nat.lt_of_le_of_lt hday (by decide))

end Instant

/-! ## Years with a sign -/

/-- Whether a year is written with a sign. -/
def IsSigned (y : Int) : Prop := y < 0 ∨ 9999 < y

instance (y : Int) : Decidable (IsSigned y) := inferInstanceAs (Decidable (_ ∨ _))

theorem not_isSigned_iff {y : Int} : ¬ IsSigned y ↔ 0 ≤ y ∧ y ≤ 9999 := by
  rw [IsSigned]
  omega

/-- The sign of such a year. -/
def yearSign (y : Int) : Char := if y < 0 then '-' else '+'

theorem yearText_of_isSigned {y : Int} (h : IsSigned y) :
    yearText y = yearSign y :: padded 4 y.natAbs := by
  rw [yearText, if_neg (by rw [IsSigned] at h; omega), yearSign]

theorem yearText_injective {y z : Int} (hy : IsSigned y) (hz : IsSigned z)
    (h : yearText y = yearText z) : y = z := by
  rw [yearText_of_isSigned hy, yearText_of_isSigned hz] at h
  obtain ⟨hsign, hdigits⟩ := List.cons.inj h
  have hsize : y.natAbs = z.natAbs := by
    rw [← Number.ofDigits_padded 4 y.natAbs, hdigits, Number.ofDigits_padded]
  rw [yearSign, yearSign] at hsign
  split at hsign
  · split at hsign
    · omega
    · cases hsign
  · split at hsign
    · cases hsign
    · omega

/-- A dash and a plus stand before all digits. -/
theorem lt_of_isDigit {c d : Char} (hc : c < '0') (hd : d.isDigit = true) : c < d := by
  simp only [Char.isDigit, Bool.and_eq_true, decide_eq_true_eq] at hd
  exact Nat.lt_of_lt_of_le hc hd.1

/-- Of two runs of digits that end in a dash the first difference decides, and what comes
behind them does not count. -/
theorem append_dash_lt {s s' : List Char} (hs' : ∀ c ∈ s', c.isDigit = true) (h : s < s')
    (r r' : List Char) : s ++ '-' :: r < s' ++ '-' :: r' := by
  induction s generalizing s' with
  | nil =>
      obtain ⟨c, s', rfl⟩ := List.exists_cons_of_ne_nil (show s' ≠ [] by rintro rfl; cases h)
      exact List.cons_lt_cons_iff.2 (Or.inl (lt_of_isDigit (by decide) (hs' c List.mem_cons_self)))
  | cons c s ih =>
      obtain ⟨d, s', rfl⟩ := List.exists_cons_of_ne_nil (show s' ≠ [] by rintro rfl; cases h)
      refine List.cons_lt_cons_iff.2 ((List.cons_lt_cons_iff.1 h).imp_right ?_)
      exact And.imp_right (ih fun c hc => hs' c (List.mem_cons_of_mem _ hc))

theorem yearText_append_lt {y z : Int} (hy : IsSigned y) (hz : IsSigned z)
    (h : yearText y < yearText z) (r r' : List Char) :
    yearText y ++ '-' :: r < yearText z ++ '-' :: r' := by
  rw [yearText_of_isSigned hy, yearText_of_isSigned hz] at h ⊢
  refine List.cons_lt_cons_iff.2 ((List.cons_lt_cons_iff.1 h).imp_right ?_)
  exact And.imp_right fun hlt => append_dash_lt (fun c => Number.isDigit_of_mem_padded) hlt r r'

end Time

end CardSearch
