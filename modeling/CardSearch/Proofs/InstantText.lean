import CardSearch.Time.Reader
import CardSearch.Time.Span
import CardSearch.Time.Timestamp
import Mathlib

/-!
# Instants come back from their text

An instant with a year of four digits is written as RFC 3339 has it, and reading
the text gives the instant again, to the nanosecond and in a leap second too.
Every number of the text is filled up to the width at which the reader takes it
(`takeNumber?_padded`), the fraction ends where the zone mark stands, and the
fields that are read are those of the instant (`instant?_parts`). The day comes
back because no day is skipped or named twice by its date.
-/

namespace CardSearch

namespace Time

open Number (padded digits ofDigits)

/-! ## Numbers of a known width -/

theorem length_padded {width n : Nat} (hpos : 0 < width) (h : n < 10 ^ width) :
    (padded width n).length = width := by
  have hdigits : (digits n).length ≤ width :=
    (Nat.length_toDigits_le_iff (by decide) hpos).2 h
  rw [padded, List.length_append, List.length_replicate]
  omega

/-- Digits end where something else stands. -/
theorem takeWhile_isDigit_append {ds rest : List Char} (hds : ∀ c ∈ ds, c.isDigit = true)
    (hrest : ∀ c ∈ rest.head?, c.isDigit = false) :
    (ds ++ rest).takeWhile Char.isDigit = ds := by
  rw [List.takeWhile_append_of_pos hds]
  cases rest with
  | nil => rw [List.takeWhile_nil, List.append_nil]
  | cons c rest =>
      rw [List.takeWhile_cons_of_neg (by rw [hrest c rfl]; decide), List.append_nil]

theorem takeNumber?_padded {width n : Nat} (hpos : 0 < width) (h : n < 10 ^ width)
    (rest : List Char) : takeNumber? width width (padded width n ++ rest) = some (n, rest) := by
  have hlen := length_padded hpos h
  have htake : ((padded width n ++ rest).take width).takeWhile Char.isDigit = padded width n := by
    rw [List.take_left' hlen]
    exact List.takeWhile_eq_self_iff.2 fun c hc => Number.isDigit_of_mem_padded hc
  simp only [takeNumber?, htake, hlen, Nat.le_refl, if_true, Number.ofDigits_padded,
    List.drop_left' hlen]

theorem takeFraction?_padded {width n : Nat} (hpos : 0 < width) (hwidth : width ≤ 9)
    (h : n < 10 ^ width) {rest : List Char} (hrest : ∀ c ∈ rest.head?, c.isDigit = false) :
    takeFraction? (padded width n ++ rest) = some (n * 10 ^ (9 - width), rest) := by
  have hlen := length_padded hpos h
  have hall : ∀ c ∈ padded width n, c.isDigit = true := fun _ => Number.isDigit_of_mem_padded
  have hdigits := takeWhile_isDigit_append hall hrest
  have hne : (padded width n).isEmpty = false := by
    rw [List.isEmpty_eq_false_iff, ← List.length_pos_iff, hlen]
    exact hpos
  simp only [takeFraction?, hdigits, hne, Bool.false_eq_true, if_false, hlen,
    List.take_of_length_le (hlen.trans_le hwidth), Number.ofDigits_padded, List.drop_left' hlen]
  rfl

/-- A fraction of three, six or nine digits is as many nanoseconds as it was made from. -/
theorem takeOptionalFraction?_fractionText {nanos : Nat} (h : nanos < nanosPerSecond)
    (rest : List Char) :
    takeOptionalFraction? (fractionText nanos ++ 'Z' :: rest) = some (nanos, 'Z' :: rest) := by
  have hzone : ∀ c ∈ ('Z' :: rest).head?, c.isDigit = false := by
    intro c hc
    obtain rfl := Option.some.inj hc
    rfl
  rw [nanosPerSecond] at h
  unfold fractionText
  split
  · next hzero =>
      rw [hzero]
      rfl
  · split
    · rw [List.cons_append, takeOptionalFraction?,
        takeFraction?_padded (by decide) (by decide) (by omega) hzone]
      congr 2
      omega
    · split
      · rw [List.cons_append, takeOptionalFraction?,
          takeFraction?_padded (by decide) (by decide) (by omega) hzone]
        congr 2
        omega
      · rw [List.cons_append, takeOptionalFraction?,
          takeFraction?_padded (by decide) (by decide) h hzone]
        congr 2
        omega

theorem bind_of_eq_some {α β : Type} {o : Option α} {a : α} (h : o = some a)
    (f : α → Option β) : (o >>= f) = f a := by
  rw [h]
  rfl

theorem expect?_self (c : Char) (rest : List Char) : expect? c (c :: rest) = some rest := if_pos rfl

/-- Fields that fit their widths are read as they were written. -/
theorem readWithOffset?_padded {year month day hour minute second nanos : Nat}
    (hyear : year ≤ 9999) (hmonth : month ≤ 12) (hday : day ≤ 31) (hhour : hour ≤ 23)
    (hminute : minute ≤ 59) (hsecond : second ≤ 60) (hnanos : nanos < nanosPerSecond) :
    readWithOffset? (padded 4 year ++ '-' :: (padded 2 month ++ '-' :: (padded 2 day ++
      'T' :: (padded 2 hour ++ ':' :: (padded 2 minute ++ ':' :: (padded 2 second ++
        (fractionText nanos ++ ['Z']))))))) =
      Parts.instant? ⟨year, month, day, hour, minute, second, nanos⟩ 0 := by
  have htwo : ∀ {n : Nat}, n < 100 → ∀ rest : List Char,
      takeNumber? 2 2 (padded 2 n ++ rest) = some (n, rest) := fun hn =>
    takeNumber?_padded (by decide) hn
  have hfour : ∀ rest : List Char, takeNumber? 4 4 (padded 4 year ++ rest) = some (year, rest) :=
    takeNumber?_padded (by decide) (Nat.lt_succ_of_le hyear)
  have hdateEnd : ∀ rest : List Char, takeDateEnd? ('T' :: rest) = some rest := fun rest => rfl
  have hzone : takeOffset? ['Z'] = some (0, []) := rfl
  unfold readWithOffset?
  refine (bind_of_eq_some (hfour _) _).trans ?_
  refine (bind_of_eq_some (expect?_self '-' _) _).trans ?_
  refine (bind_of_eq_some (htwo (by omega) _) _).trans ?_
  refine (bind_of_eq_some (expect?_self '-' _) _).trans ?_
  refine (bind_of_eq_some (htwo (by omega) _) _).trans ?_
  refine (bind_of_eq_some (hdateEnd _) _).trans ?_
  refine (bind_of_eq_some (htwo (by omega) _) _).trans ?_
  refine (bind_of_eq_some (expect?_self ':' _) _).trans ?_
  refine (bind_of_eq_some (htwo (by omega) _) _).trans ?_
  refine (bind_of_eq_some (expect?_self ':' _) _).trans ?_
  refine (bind_of_eq_some (htwo (by omega) _) _).trans ?_
  refine (bind_of_eq_some (takeOptionalFraction?_fractionText hnanos []) _).trans ?_
  refine (bind_of_eq_some hzone _).trans ?_
  rfl

/-! ## The fields of an instant -/

theorem Date.day_le_of_isValid {d : Date} (h : d.isValid = true) : d.month ≤ 12 ∧ d.day ≤ 31 := by
  have hlengths : ∀ leap, ∀ n ∈ monthLengths leap, n ≤ 31 := by decide
  simp only [Date.isValid, Bool.and_eq_true, decide_eq_true_eq] at h
  refine ⟨h.1.1.2, h.2.trans ?_⟩
  rw [List.getD_eq_getElem?_getD]
  cases hget : (monthLengths (isLeapYear d.year))[d.month - 1]? with
  | none => exact Nat.zero_le 31
  | some n => exact hlengths _ n (List.mem_of_getElem? hget)

/-! ## Texts that end with the zone mark -/

theorem getLast?_of_cons {c d : Char} {s : List Char} (h : (c :: s).getLast? = some d)
    (hne : c ≠ d) : s.getLast? = some d := by
  cases s with
  | nil => exact absurd (Option.some.inj h) hne
  | cons e s => rwa [List.getLast?_cons_cons] at h

/-- What stands before the last character is dropped only. -/
theorem getLast?_dropWhile {p : Char → Bool} {s : List Char} {c : Char}
    (h : s.getLast? = some c) (hc : p c = false) : (s.dropWhile p).getLast? = some c := by
  induction s with
  | nil => exact h
  | cons d s ih =>
      rw [List.dropWhile_cons]
      split
      · next hd => exact ih (getLast?_of_cons h (Text.ne_of_test hd hc))
      · exact h

theorem SpanUnit.ofName?_eq_none_of_getLast? {s : List Char} (h : s.getLast? = some 'Z') :
    SpanUnit.ofName? s = none := by
  unfold SpanUnit.ofName?
  split
  all_goals first | rfl | cases h

namespace Instant

/-- The part of a second that is written as its fraction. -/
def fraction (t : Instant) : Nat := if t.isLeap then t.nanos - nanosPerSecond else t.nanos

theorem fraction_lt (t : Instant) : t.fraction < nanosPerSecond := by
  have hnanos := t.nanos_lt
  unfold fraction isLeap
  split
  · next hleap =>
      have hle := of_decide_eq_true hleap
      omega
  · next hleap =>
      have hlt := of_decide_eq_false (Bool.not_eq_true _ ▸ hleap)
      omega

/-- The fields that the text of an instant tells. -/
def parts (t : Instant) : Parts where
  year := t.date.year
  month := t.date.month
  day := t.date.day
  hour := t.secondOfDay.toNat / 3600
  minute := t.secondOfDay.toNat / 60 % 60
  second := t.secondOfMinute
  nanos := t.fraction

theorem eq_of_seconds_of_nanos {a b : Instant} (hseconds : a.seconds = b.seconds)
    (hnanos : a.nanos = b.nanos) : a = b := by
  obtain ⟨seconds, nanos, hlt⟩ := a
  obtain ⟨seconds', nanos', hlt'⟩ := b
  obtain rfl : seconds = seconds' := hseconds
  obtain rfl : nanos = nanos' := hnanos
  rfl

/-- The clock fields are in range and make up the second of the instant. -/
theorem epochSeconds_parts (t : Instant) :
    t.parts.hour ≤ 23 ∧ t.parts.minute ≤ 59 ∧ t.parts.second ≤ 60 ∧
      (t.parts.isLeap = t.isLeap) ∧ t.parts.epochSeconds 0 = t.seconds := by
  have hnanos := t.nanos_lt
  have hday : t.parts.date.dayNumber = t.seconds / 86400 :=
    (Date.dayNumber_ofDayNumber t.dayNumber).1
  have hsecond : t.parts.second = (t.seconds % 60).toNat + if t.isLeap then 1 else 0 := rfl
  have hhour : t.parts.hour = (t.seconds % 86400).toNat / 3600 := rfl
  have hminute : t.parts.minute = (t.seconds % 86400).toNat / 60 % 60 := rfl
  have hleap : t.isLeap = true → t.seconds % 60 = 59 := by
    intro h
    have hle := of_decide_eq_true h
    omega
  unfold Parts.isLeap Parts.epochSeconds
  rw [hday, hsecond, hhour, hminute, secondsPerDay]
  cases h : t.isLeap with
  | false =>
      simp only [Bool.false_eq_true, if_false, Nat.add_zero, beq_eq_false_iff_ne]
      omega
  | true =>
      have hlast := hleap h
      simp only [if_true, beq_iff_eq]
      omega

theorem isInRange_date {t : Instant} (hyear : 0 ≤ t.date.year ∧ t.date.year ≤ 9999) :
    t.date.isInRange = true := by
  rw [Date.isInRange, Bool.and_eq_true, decide_eq_true_eq, decide_eq_true_eq, Date.minYear,
    Date.maxYear]
  omega

/-- The fields of an instant tell it. -/
theorem instant?_parts {t : Instant} (hyear : 0 ≤ t.date.year ∧ t.date.year ≤ 9999) :
    t.parts.instant? 0 = some t := by
  obtain ⟨hhour, hminute, hsecond, hleap, hepoch⟩ := epochSeconds_parts t
  have hvalid : t.parts.date.isValid = true := (Date.dayNumber_ofDayNumber t.dayNumber).2
  have hrange : t.parts.date.isInRange = true := isInRange_date hyear
  have hfraction : t.parts.nanos < nanosPerSecond := t.fraction_lt
  unfold Parts.instant?
  rw [dif_pos hfraction, if_pos (by simp [hvalid, hrange, hhour, hminute, hsecond])]
  have hnanos : t.parts.nanos = if t.isLeap then t.nanos - nanosPerSecond else t.nanos := rfl
  cases h : t.isLeap with
  | false =>
      rw [h] at hleap hnanos
      rw [dif_neg (by rw [hleap]; decide)]
      exact congrArg some (eq_of_seconds_of_nanos hepoch hnanos)
  | true =>
      rw [h] at hleap hnanos
      rw [dif_pos hleap]
      have hle : nanosPerSecond ≤ t.nanos := of_decide_eq_true h
      refine congrArg some (eq_of_seconds_of_nanos hepoch ?_)
      show t.parts.nanos + nanosPerSecond = t.nanos
      rw [hnanos, if_pos rfl, Nat.sub_add_cancel hle]

/-- The text of an instant field by field. -/
theorem text_eq_fields (t : Instant) :
    t.text = yearText t.date.year ++ '-' :: (padded 2 t.parts.month ++
      '-' :: (padded 2 t.parts.day ++ 'T' :: (padded 2 t.parts.hour ++ ':' ::
        (padded 2 t.parts.minute ++ ':' :: (padded 2 t.parts.second ++
          (fractionText t.parts.nanos ++ ['Z'])))))) := by
  rw [text, Date.text, clockText]
  simp only [List.append_assoc, List.cons_append]
  rfl

/-- The text of an instant is read field by field. -/
theorem readWithOffset?_text {t : Instant} (hyear : 0 ≤ t.date.year ∧ t.date.year ≤ 9999) :
    readWithOffset? t.text = t.parts.instant? 0 := by
  have hdate : t.parts.month ≤ 12 ∧ t.parts.day ≤ 31 :=
    Date.day_le_of_isValid (Date.dayNumber_ofDayNumber t.dayNumber).2
  have hfraction : t.parts.nanos < nanosPerSecond := t.fraction_lt
  obtain ⟨hhour, hminute, hsecond, -, -⟩ := epochSeconds_parts t
  have hyearText : yearText t.date.year = padded 4 t.date.year.toNat := if_pos hyear
  have hcast : (t.date.year.toNat : Int) = t.parts.year := Int.toNat_of_nonneg hyear.1
  rw [text_eq_fields, hyearText,
    readWithOffset?_padded (by omega) hdate.1 hdate.2 hhour hminute hsecond hfraction, hcast]

/-- A text of four digits of the year, a dash and more, up to the zone mark. -/
theorem exists_text_eq {t : Instant} (hyear : 0 ≤ t.date.year ∧ t.date.year ≤ 9999) :
    ∃ rest, t.text = padded 4 t.date.year.toNat ++ '-' :: (rest ++ ['Z']) := by
  have hyearText : yearText t.date.year = padded 4 t.date.year.toNat := if_pos hyear
  refine ⟨padded 2 t.date.month ++ '-' :: padded 2 t.date.day ++ 'T' :: t.clockText, ?_⟩
  rw [text, Date.text, hyearText]
  simp only [List.append_assoc, List.cons_append]

theorem head_text {t : Instant} (hyear : 0 ≤ t.date.year ∧ t.date.year ≤ 9999) :
    ∃ c rest, t.text = c :: rest ∧ c.isDigit = true := by
  obtain ⟨rest, htext⟩ := exists_text_eq hyear
  have hlen : (padded 4 t.date.year.toNat).length = 4 :=
    length_padded (by decide) (by omega)
  obtain ⟨c, cs, hcs⟩ := List.exists_cons_of_length_pos (hlen ▸ (by decide : 0 < 4))
  refine ⟨c, cs ++ '-' :: (rest ++ ['Z']), by rw [htext, hcs, List.cons_append], ?_⟩
  exact Number.isDigit_of_mem_padded (by rw [hcs]; exact List.mem_cons_self)

theorem trim_text {t : Instant} (hyear : 0 ≤ t.date.year ∧ t.date.year ≤ 9999) :
    Text.trim t.text = t.text := by
  refine Text.trim_eq_self ?_ ?_
  · obtain ⟨c, rest, htext, hdigit⟩ := head_text hyear
    intro d hd
    rw [htext] at hd
    obtain rfl := Option.some.inj hd
    exact Text.isBlank_of_isDigit hdigit
  · obtain ⟨rest, htext⟩ := exists_text_eq hyear
    intro d hd
    rw [htext, ← List.cons_append, ← List.append_assoc, List.getLast?_concat] at hd
    obtain rfl := Option.some.inj hd
    decide

/-- An instant with a year of four digits is read from its text. -/
theorem readInstant?_text {t : Instant} (hyear : 0 ≤ t.date.year ∧ t.date.year ≤ 9999) :
    readInstant? t.text = some t := by
  unfold readInstant?
  simp only [trim_text hyear, readWithOffset?_text hyear, instant?_parts hyear, Option.some_or]

/-- The text of an instant is no whole number. -/
theorem readInt64?_text {t : Instant} (hyear : 0 ≤ t.date.year ∧ t.date.year ≤ 9999) :
    Number.readInt64? t.text = none := by
  obtain ⟨rest, htext⟩ := exists_text_eq hyear
  obtain ⟨c, cs, hcs, hdigit⟩ := head_text hyear
  have hdash : '-' ∈ t.text := by
    rw [htext]
    exact List.mem_append_right _ List.mem_cons_self
  have hnat : Number.readNat? t.text = none := by
    refine if_neg fun h => ?_
    have hall := List.all_eq_true.1 h.2 '-' hdash
    cases hall
  have hint : Number.readInt? t.text = (Number.readNat? t.text).map Int.ofNat := by
    rw [hcs]
    unfold Number.readInt?
    split
    · next heq =>
        obtain ⟨rfl, -⟩ := List.cons.inj heq
        cases hdigit
    · next heq =>
        obtain ⟨rfl, -⟩ := List.cons.inj heq
        cases hdigit
    · rfl
  rw [Number.readInt64?, hint, hnat]
  rfl

theorem getLast?_text (t : Instant) : t.text.getLast? = some 'Z' := List.getLast?_concat

/-- The text of an instant is no span, as no unit ends with the zone mark. -/
theorem readSpan?_text (t : Instant) : readSpan? t.text = none := by
  have hnow : t.text ≠ nowName := fun e => by
    have hlast := t.getLast?_text
    rw [e] at hlast
    cases hlast
  have hsign : (splitSign t.text).2.getLast? = some 'Z' := by
    have hlast := t.getLast?_text
    unfold splitSign
    split
    · next rest heq => exact getLast?_of_cons (heq ▸ hlast) (by decide)
    · next rest heq => exact getLast?_of_cons (heq ▸ hlast) (by decide)
    · exact hlast
  have hunit : SpanUnit.ofName? ((splitSign t.text).2.dropWhile Char.isDigit) = none :=
    SpanUnit.ofName?_eq_none_of_getLast? (getLast?_dropWhile hsign rfl)
  rw [readSpan?, if_neg hnow]
  simp only [hunit, Option.bind_eq_bind, Option.bind_none]
  cases Number.readNat? ((splitSign t.text).2.takeWhile Char.isDigit) with
  | none => rfl
  | some n => rfl

end Instant

end Time

end CardSearch
