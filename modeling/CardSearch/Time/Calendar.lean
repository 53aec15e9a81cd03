/-!
# Dates and day numbers

A date of the Gregorian calendar, extended to all years, and the number of days
from 1970-01-01 to it. `Date.ofDayNumber` goes back; `dayNumber_ofDayNumber` says
that it lands on the day it was given, so no day is skipped or named twice.
-/

namespace CardSearch.Time

def isLeapYear (y : Int) : Bool := y % 4 == 0 && (y % 100 != 0 || y % 400 == 0)

/-- The lengths of the months from January on. -/
def monthLengths (leap : Bool) : List Nat :=
  [31, if leap then 29 else 28, 31, 30, 31, 30, 31, 31, 30, 31, 30, 31]

structure Date where
  year : Int
  month : Nat
  day : Nat
deriving DecidableEq, Repr

namespace Date

/-- The first and last year in which an instant can be told. -/
def minYear : Int := -262143
def maxYear : Int := 262142

/-- Whether the month and the day exist. -/
def isValid (d : Date) : Bool :=
  1 ≤ d.month && d.month ≤ 12 && 1 ≤ d.day &&
    d.day ≤ (monthLengths (isLeapYear d.year)).getD (d.month - 1) 0

/-- Whether the year is one in which an instant can be told. -/
def isInRange (d : Date) : Bool := minYear ≤ d.year && d.year ≤ maxYear

end Date

/-- Days from 1970-01-01 to the first of January of a year. -/
def yearStart (y : Int) : Int :=
  365 * (y - 1970) + (y - 1) / 4 - (y - 1) / 100 + (y - 1) / 400 - 477

/-- The days of some months together, given their lengths. -/
def daysOf : List Nat → Nat
  | [] => 0
  | length :: rest => length + daysOf rest

/-- Days from the first of January to the first of a month. -/
def monthStart (leap : Bool) (month : Nat) : Nat := daysOf ((monthLengths leap).take (month - 1))

/-- Days from 1970-01-01 to a date. -/
def Date.dayNumber (d : Date) : Int :=
  yearStart d.year + monthStart (isLeapYear d.year) d.month + d.day - 1

/-- The year that holds a day. -/
def yearOf (n : Int) : Int :=
  let guess := 1970 + n * 400 / 146097
  if n < yearStart guess then guess - 1
  else if yearStart (guess + 1) ≤ n then guess + 1
  else guess

/-- The month and the day that lie a number of days after the first of the first month listed. -/
def monthAndDay (month : Nat) : List Nat → Nat → Nat × Nat
  | [], n => (month, n + 1)
  | length :: rest, n =>
    if n < length ∨ rest = [] then (month, n + 1) else monthAndDay (month + 1) rest (n - length)

/-- The date a number of days after 1970-01-01. -/
def Date.ofDayNumber (n : Int) : Date :=
  let y := yearOf n
  let (m, d) := monthAndDay 1 (monthLengths (isLeapYear y)) (n - yearStart y).toNat
  ⟨y, m, d⟩

@[simp] theorem daysOf_nil : daysOf [] = 0 := rfl

@[simp] theorem daysOf_cons (length : Nat) (rest : List Nat) :
    daysOf (length :: rest) = length + daysOf rest := rfl

theorem daysOf_append (first second : List Nat) :
    daysOf (first ++ second) = daysOf first + daysOf second := by
  induction first with
  | nil => simp
  | cons length rest ih => simp [ih, Nat.add_assoc]

/-- A year is 366 days long when it is a leap year and 365 otherwise. -/
theorem yearStart_succ (y : Int) :
    yearStart (y + 1) = yearStart y + if isLeapYear y then 366 else 365 := by
  simp only [yearStart, isLeapYear, Bool.and_eq_true, Bool.or_eq_true, beq_iff_eq, bne_iff_ne]
  split <;> omega

/-- The year found for a day does hold it. -/
theorem yearStart_yearOf (n : Int) :
    yearStart (yearOf n) ≤ n ∧ n < yearStart (yearOf n + 1) := by
  simp only [yearOf]
  split
  · rename_i h
    rw [Int.sub_add_cancel]
    refine ⟨?_, h⟩
    simp only [yearStart]
    omega
  · rename_i h
    split
    · rename_i h'
      refine ⟨h', ?_⟩
      simp only [yearStart]
      omega
    · rename_i h'
      exact ⟨by omega, by omega⟩

/-- Years are told apart by their first day. -/
theorem yearStart_strictMono {a b : Int} (h : a < b) : yearStart (a + 1) ≤ yearStart b := by
  simp only [yearStart]
  omega

/-- A day inside the listed months is found at its place. -/
theorem monthAndDay_eq {l : List Nat} {j d : Nat} (month : Nat) (hj : j < l.length)
    (hd : d < l.getD j 0) :
    monthAndDay month l (daysOf (l.take j) + d) = (month + j, d + 1) := by
  induction l generalizing j month with
  | nil => simp at hj
  | cons length rest ih =>
    cases j with
    | zero =>
      have : d < length := by simpa using hd
      simp [monthAndDay, this]
    | succ j =>
      have hj' : j < rest.length := by simpa using hj
      have hne : rest ≠ [] := by rintro rfl; simp at hj'
      have hd' : d < rest.getD j 0 := by simpa using hd
      have hlt : ¬ length + daysOf (rest.take j) + d < length := by omega
      have hsub : length + daysOf (rest.take j) + d - length = daysOf (rest.take j) + d := by omega
      simp [monthAndDay, hlt, hne, hsub, ih (month + 1) hj' hd']
      omega

/-- Every day of the listed months has a place in one of them. -/
theorem exists_monthAndDay {l : List Nat} {n : Nat} (h : n < daysOf l) :
    ∃ j d, j < l.length ∧ d < l.getD j 0 ∧ n = daysOf (l.take j) + d := by
  induction l generalizing n with
  | nil => simp at h
  | cons length rest ih =>
    by_cases hn : n < length
    · exact ⟨0, n, by simp, by simpa using hn, by simp⟩
    · obtain ⟨j, d, hj, hd, he⟩ := ih (n := n - length) (by simp at h; omega)
      exact ⟨j + 1, d, by simpa using hj, by simpa using hd, by simp; omega⟩

theorem length_monthLengths (leap : Bool) : (monthLengths leap).length = 12 := rfl

theorem daysOf_monthLengths (leap : Bool) :
    daysOf (monthLengths leap) = if leap then 366 else 365 := by cases leap <;> rfl

/-- Going to a day number and back keeps a date that exists. -/
theorem Date.ofDayNumber_dayNumber {d : Date} (h : d.isValid) :
    Date.ofDayNumber d.dayNumber = d := by
  obtain ⟨year, month, day⟩ := d
  simp only [Date.isValid, Bool.and_eq_true, decide_eq_true_eq] at h
  obtain ⟨⟨⟨h₁, h₂⟩, h₃⟩, h₄⟩ := h
  have hlen : daysOf ((monthLengths (isLeapYear year)).take (month - 1)) + (day - 1) <
      daysOf (monthLengths (isLeapYear year)) := by
    have hsplit := List.take_append_drop (month - 1) (monthLengths (isLeapYear year))
    have hsum := congrArg daysOf hsplit
    rw [daysOf_append] at hsum
    have hdrop : (monthLengths (isLeapYear year)).drop (month - 1) =
        (monthLengths (isLeapYear year)).getD (month - 1) 0 ::
          (monthLengths (isLeapYear year)).drop month := by
      have hm : month - 1 < (monthLengths (isLeapYear year)).length := by
        rw [length_monthLengths]; omega
      rw [List.drop_eq_getElem_cons hm]
      simp [List.getD, List.getElem?_eq_getElem hm, Nat.sub_add_cancel h₁]
    rw [hdrop, daysOf_cons] at hsum
    omega
  have hyear : yearOf (Date.dayNumber ⟨year, month, day⟩) = year := by
    obtain ⟨hle, hlt⟩ := yearStart_yearOf (Date.dayNumber ⟨year, month, day⟩)
    have hs := yearStart_succ year
    rw [daysOf_monthLengths] at hlen
    simp only [Date.dayNumber, monthStart] at hle hlt ⊢
    generalize yearOf _ = y at hle hlt ⊢
    rcases Int.lt_trichotomy y year with hy | hy | hy
    · have := yearStart_strictMono hy
      omega
    · exact hy
    · have := yearStart_strictMono hy
      generalize daysOf ((monthLengths (isLeapYear year)).take (month - 1)) = before at *
      split at hs <;> rename_i hleap
      · rw [if_pos hleap] at hlen
        omega
      · rw [if_neg hleap] at hlen
        omega
  have hrest : (Date.dayNumber ⟨year, month, day⟩ - yearStart year).toNat =
      daysOf ((monthLengths (isLeapYear year)).take (month - 1)) + (day - 1) := by
    simp only [Date.dayNumber, monthStart]
    omega
  have hm := monthAndDay_eq (l := monthLengths (isLeapYear year)) (j := month - 1)
    (d := day - 1) 1 (by rw [length_monthLengths]; omega) (by omega)
  simp only [Date.ofDayNumber, hyear, hrest, hm]
  simp only [Date.mk.injEq, true_and]
  omega

/-- Going to the date of a day and back lands on the day, and the date exists. -/
theorem Date.dayNumber_ofDayNumber (n : Int) :
    (Date.ofDayNumber n).dayNumber = n ∧ (Date.ofDayNumber n).isValid := by
  obtain ⟨hle, hlt⟩ := yearStart_yearOf n
  have hs := yearStart_succ (yearOf n)
  have hsum := daysOf_monthLengths (isLeapYear (yearOf n))
  obtain ⟨j, d, hj, hd, he⟩ := exists_monthAndDay (l := monthLengths (isLeapYear (yearOf n)))
    (n := (n - yearStart (yearOf n)).toNat) (by split at hs <;> simp_all <;> omega)
  have hm := monthAndDay_eq 1 hj hd
  rw [length_monthLengths] at hj
  simp only [Date.ofDayNumber, he, hm, Date.dayNumber, monthStart, Date.isValid, Bool.and_eq_true,
    decide_eq_true_eq]
  rw [Nat.add_sub_cancel_left]
  refine ⟨by omega, ⟨⟨⟨by omega, by omega⟩, by omega⟩, by omega⟩⟩

end CardSearch.Time
