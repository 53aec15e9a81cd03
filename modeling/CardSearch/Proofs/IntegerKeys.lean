import CardSearch.Proofs.FieldOrder
import CardSearch.Proofs.Rounding
import Mathlib.Tactic.Ring

/-!
# Integers as sort keys

A whole number is sorted by a double. `IsNearestDouble` says which one without saying
how it is found: of all integers with 53 significant bits the nearest, and of two that
are equally near the even one. `nearestInt` finds it, because between a number and its
two neighbours on the grid of its size lies no other such integer (`le_or_le_of_fits`).

Rounding keeps the order and goes past no double, so the keys stand in the order of the
integers, and two integers of at most 2^53 in size never share a key. A sort can
therefore misplace integers only among those that share one.
-/

namespace CardSearch

namespace Number

/-- A natural number that 53 significant bits can hold. -/
def FitsMantissa (y : Nat) : Prop := ∃ k e : Nat, k < mantissaCount ∧ y = k * Nat.pow 2 e

/-- The double that an integer is rounded to: no other is nearer, and of two that are
equally near it is the one whose last bit is zero, a multiple of twice the gap. -/
structure IsNearestDouble (n x : Int) : Prop where
  fits : FitsMantissa x.natAbs
  nearest : ∀ y : Int, FitsMantissa y.natAbs → (n - x).natAbs ≤ (n - y).natAbs
  even : ∀ y : Int, FitsMantissa y.natAbs → (n - y).natAbs = (n - x).natAbs → y ≠ x →
    2 * (y - x) ∣ x

/-! ## The grid of a size -/

theorem fitsMantissa_zero : FitsMantissa 0 := ⟨0, 0, by decide, rfl⟩

theorem lt_mantissaCount_of_excessBits_eq_zero {n : Nat} (h : excessBits n = 0) :
    n < mantissaCount := by
  have hlog : n.log2 < 53 := by
    rw [excessBits] at h
    omega
  rcases Nat.eq_zero_or_pos n with rfl | hn
  · decide
  · exact (Nat.log2_lt (Nat.ne_of_gt hn)).1 hlog

/-- Where bits are dropped, those that are left need a full mantissa. -/
theorem mantissa_bounds {n : Nat} (h : excessBits n ≠ 0) :
    leastFullMantissa ≤ n / Nat.pow 2 (excessBits n) ∧
      n / Nat.pow 2 (excessBits n) < mantissaCount := by
  have hn : n ≠ 0 := by
    rintro rfl
    exact h rfl
  have hlog : n.log2 = 52 + excessBits n := by
    rw [excessBits] at h ⊢
    omega
  have hpos : 0 < Nat.pow 2 (excessBits n) := Nat.two_pow_pos _
  constructor
  · have hlow : Nat.pow 2 52 * Nat.pow 2 (excessBits n) ≤ n := by
      have hself := Nat.log2_self_le hn
      rw [hlog, Nat.pow_add] at hself
      exact hself
    exact (Nat.le_div_iff_mul_le hpos).2 hlow
  · have hhigh : n < Nat.pow 2 53 * Nat.pow 2 (excessBits n) := by
      have hself := Nat.lt_log2_self (n := n)
      rw [hlog, show 52 + excessBits n + 1 = 53 + excessBits n by omega, Nat.pow_add] at hself
      exact hself
    exact (Nat.div_lt_iff_lt_mul hpos).2 hhigh

/-- Between neighbours of the grid lies no number of 53 bits. -/
theorem le_or_le_of_fits {y q e : Nat} (hq : leastFullMantissa ≤ q) (hy : FitsMantissa y) :
    y ≤ q * Nat.pow 2 e ∨ (q + 1) * Nat.pow 2 e ≤ y := by
  obtain ⟨k, i, hk, rfl⟩ := hy
  rcases Nat.lt_or_ge i e with hlt | hge
  · -- On a finer grid it stays below all numbers of this size.
    left
    calc k * Nat.pow 2 i ≤ mantissaCount * Nat.pow 2 i := Nat.mul_le_mul_right _ (Nat.le_of_lt hk)
      _ = leastFullMantissa * Nat.pow 2 (i + 1) := by
        show leastFullMantissa * 2 * 2 ^ i = leastFullMantissa * 2 ^ (i + 1)
        rw [Nat.pow_succ', Nat.mul_assoc]
      _ ≤ leastFullMantissa * Nat.pow 2 e :=
        Nat.mul_le_mul_left _ (Nat.pow_le_pow_right (by decide) hlt)
      _ ≤ q * Nat.pow 2 e := Nat.mul_le_mul_right _ hq
  · -- Otherwise it stands on the grid itself.
    have hgrid : k * Nat.pow 2 i = k * Nat.pow 2 (i - e) * Nat.pow 2 e := by
      show k * 2 ^ i = k * 2 ^ (i - e) * 2 ^ e
      rw [Nat.mul_assoc, ← Nat.pow_add, Nat.sub_add_cancel hge]
    rw [hgrid]
    rcases Nat.lt_or_ge q (k * Nat.pow 2 (i - e)) with hlt | hle
    · exact Or.inr (Nat.mul_le_mul_right _ hlt)
    · exact Or.inl (Nat.mul_le_mul_right _ hle)

theorem fitsMantissa_mul {k : Nat} (h : k ≤ mantissaCount) (e : Nat) :
    FitsMantissa (k * Nat.pow 2 e) := by
  rcases Nat.lt_or_eq_of_le h with hlt | rfl
  · exact ⟨k, e, hlt, rfl⟩
  · refine ⟨leastFullMantissa, e + 1, by decide, ?_⟩
    show leastFullMantissa * 2 * 2 ^ e = leastFullMantissa * 2 ^ (e + 1)
    rw [Nat.pow_succ', Nat.mul_assoc]

/-! ## Rounding finds the nearest double -/

theorem fitsMantissa_nearestNat (n : Nat) : FitsMantissa (nearestNat n) := by
  by_cases hexcess : excessBits n = 0
  · have hn := lt_mantissaCount_of_excessBits_eq_zero hexcess
    rw [nearestNat_eq_self hn]
    exact ⟨n, 0, hn, (Nat.mul_one n).symm⟩
  · have hround := roundDiv_le n (Nat.pow 2 (excessBits n))
    have hbound := (mantissa_bounds hexcess).2
    exact fitsMantissa_mul (by omega) _

/-- Of the numbers outside the cell of the grid that a number lies in, none is nearer than
the side it is rounded to, and only the odd one of two sides can be as near. -/
theorem roundDiv_nearest {n d y : Nat} (hd : 0 < d)
    (hgap : y ≤ n / d * d ∨ (n / d + 1) * d ≤ y) :
    ((n : Int) - (roundDiv n d * d : Nat)).natAbs ≤ ((n : Int) - y).natAbs ∧
    (((n : Int) - y).natAbs = ((n : Int) - (roundDiv n d * d : Nat)).natAbs →
      (y : Int) ≠ (roundDiv n d * d : Nat) →
      2 * ((y : Int) - (roundDiv n d * d : Nat)) ∣ (roundDiv n d * d : Nat)) := by
  have hdiv := Nat.div_add_mod n d
  have hrem := Nat.mod_lt n hd
  simp only [roundDiv]
  generalize n / d = q at *
  generalize n % d = r at *
  rw [Nat.succ_mul, Nat.mul_comm q d] at hgap
  split
  · rw [Nat.mul_comm q d]
    omega
  · split
    · rw [Nat.succ_mul, Nat.mul_comm q d]
      omega
    · -- Both sides are as near.
      obtain ⟨c, hc⟩ : ∃ c, q + q % 2 = 2 * c := ⟨(q + q % 2) / 2, by omega⟩
      have hside : d * q = 2 * (d * c) ∨ d * q + d = 2 * (d * c) := by
        have heven : d * q + d * (q % 2) = 2 * (d * c) := by
          rw [← Nat.mul_add, hc, Nat.mul_left_comm]
        rcases Nat.mod_two_eq_zero_or_one q with hzero | hone
        · exact Or.inl (by rwa [hzero, Nat.mul_zero, Nat.add_zero] at heven)
        · exact Or.inr (by rwa [hone, Nat.mul_one] at heven)
      rw [hc, Nat.mul_assoc, Nat.mul_comm c d]
      refine ⟨by omega, fun hsame hne => ?_⟩
      have hneighbour : (y : Int) - (2 * (d * c) : Nat) = d ∨
          (y : Int) - (2 * (d * c) : Nat) = -d := by omega
      rcases hneighbour with habove | hbelow
      · rw [habove]
        exact ⟨c, by push_cast; ring⟩
      · rw [hbelow]
        exact ⟨-c, by push_cast; ring⟩

/-- A natural number is rounded to its nearest double among the naturals. -/
theorem nearestNat_nearest (n : Nat) {y : Nat} (hy : FitsMantissa y) :
    ((n : Int) - nearestNat n).natAbs ≤ ((n : Int) - y).natAbs ∧
    (((n : Int) - y).natAbs = ((n : Int) - nearestNat n).natAbs → (y : Int) ≠ nearestNat n →
      2 * ((y : Int) - nearestNat n) ∣ nearestNat n) := by
  by_cases hexcess : excessBits n = 0
  · rw [nearestNat_eq_self (lt_mantissaCount_of_excessBits_eq_zero hexcess)]
    omega
  · exact roundDiv_nearest (Nat.two_pow_pos _) (le_or_le_of_fits (mantissa_bounds hexcess).1 hy)

theorem isNearestDouble_ofNat (n : Nat) : IsNearestDouble n (nearestNat n) where
  fits := fitsMantissa_nearestNat n
  nearest y hy := by
    cases y with
    | ofNat y => exact (nearestNat_nearest n hy).1
    | negSucc y =>
        -- Below zero all are farther than zero itself.
        have hzero := (nearestNat_nearest n fitsMantissa_zero).1
        omega
  even y hy hsame hne := by
    cases y with
    | ofNat y => exact (nearestNat_nearest n hy).2 hsame hne
    | negSucc y =>
        have hzero := (nearestNat_nearest n fitsMantissa_zero).1
        omega

theorem IsNearestDouble.neg {n x : Int} (h : IsNearestDouble n x) : IsNearestDouble (-n) (-x) where
  fits := by
    rw [Int.natAbs_neg]
    exact h.fits
  nearest y hy := by
    have hnear := h.nearest (-y) (by rwa [Int.natAbs_neg])
    omega
  even y hy hsame hne := by
    have heven := h.even (-y) (by rwa [Int.natAbs_neg]) (by omega) (by omega)
    rw [show 2 * (y - -x) = -(2 * (-y - x)) by omega]
    exact Int.neg_dvd.2 (Int.dvd_neg.2 heven)

theorem isNearestDouble_nearestInt (n : Int) : IsNearestDouble n (nearestInt n) := by
  cases n with
  | ofNat n => exact isNearestDouble_ofNat n
  | negSucc n => exact (isNearestDouble_ofNat (n + 1)).neg

/-- Up to 2^53 in size every integer is its own double. -/
theorem nearestInt_strictMono {n m : Int} (h : n < m) (hn : n.natAbs ≤ mantissaCount)
    (hm : m.natAbs ≤ mantissaCount) : nearestInt n < nearestInt m := by
  have hself : ∀ k : Int, k.natAbs ≤ mantissaCount → nearestInt k = k := by
    intro k hk
    rcases Nat.lt_or_eq_of_le hk with hlt | heq
    · exact nearestInt_eq_self hlt
    · rcases Int.natAbs_eq k with hpos | hneg
      · rw [hpos, heq]
        decide +kernel
      · rw [hneg, heq]
        decide +kernel
  rw [hself n hn, hself m hm]
  exact h

end Number

/-! ## The keys of integers -/

namespace SortKey

open Number

variable {n m : Int}

theorem compare_ofValue_int :
    (ofValue (.number (.int n))).compare (ofValue (.number (.int m))) =
      Ord.compare (nearestInt n) (nearestInt m) := rfl

theorem nearestInt_le_of_isLE
    (h : (ofValue (.number (.int n))).compare (ofValue (.number (.int m))) ≠ .gt) :
    nearestInt n ≤ nearestInt m := by
  rw [compare_ofValue_int, ne_eq, Int.compare_eq_gt] at h
  exact Int.not_lt.1 h

end SortKey

namespace Search

open Number

/-- Integers have keys in their order. The key is the double nearest to the integer, it
stands above the key of a field that is missing, and it grows with the integer, strictly
up to 2^53 in size. So when cards are sorted by a field that holds integers, one comes
after a card with a greater integer only if both are rounded to the same double. -/
theorem integers_sort_by_size {α : Type} {card : α → Card} {field : List Char} {value : α → Int}
    {items : List α}
    (hitems : ∀ a ∈ items, (card a).find field = .one (.number (.int (value a)))) :
    (∀ n : Int, ∃ x, SortKey.ofValue (.number (.int n)) = .number x ∧ IsNearestDouble n x ∧
      (SortKey.ofFound .absent).compare (SortKey.ofValue (.number (.int n))) = .lt) ∧
    (∀ n m : Int, n < m →
      (SortKey.ofValue (.number (.int n))).compare (SortKey.ofValue (.number (.int m))) ≠ .gt ∧
      (n.natAbs ≤ 2 ^ 53 → m.natAbs ≤ 2 ^ 53 →
        (SortKey.ofValue (.number (.int n))).compare
          (SortKey.ofValue (.number (.int m))) = .lt)) ∧
    (sortByKey (fun a => SortKey.ofCard field (card a)) false items).Pairwise fun a b =>
      value b < value a →
        ∃ x, IsNearestDouble (value a) x ∧ IsNearestDouble (value b) x := by
  refine ⟨fun n => ⟨nearestInt n, rfl, isNearestDouble_nearestInt n, rfl⟩, fun n m h => ?_, ?_⟩
  · rw [SortKey.compare_ofValue_int, ne_eq, Int.compare_eq_gt, Int.not_lt, Int.compare_eq_lt]
    exact ⟨nearestInt_mono (Int.le_of_lt h), nearestInt_strictMono h⟩
  · have hsorted := isStableSort_sortByKey (fun a => SortKey.ofCard field (card a)) false items
    have hkey : ∀ a ∈ sortByKey (fun a => SortKey.ofCard field (card a)) false items,
        SortKey.ofCard field (card a) = SortKey.ofValue (.number (.int (value a))) := by
      intro a ha
      rw [SortKey.ofCard, hitems a (hsorted.perm.mem_iff.1 ha)]
      rfl
    refine hsorted.ordered.imp_of_mem fun {a b} ha hb hle hlt => ?_
    rw [hkey a ha, hkey b hb] at hle
    have hround : nearestInt (value a) = nearestInt (value b) :=
      Int.le_antisymm (SortKey.nearestInt_le_of_isLE hle) (nearestInt_mono (Int.le_of_lt hlt))
    refine ⟨nearestInt (value a), isNearestDouble_nearestInt _, ?_⟩
    rw [hround]
    exact isNearestDouble_nearestInt _

/-- A card with an integer in one field. -/
def cardOfInteger (n : Int) : Card := ⟨[("x", .number (.int n))]⟩

/-- Two integers that are rounded to 2^53 stay as they stood, the greater one first. -/
theorem integers_sort_by_size_past_mantissa :
    sortByKey (fun n => SortKey.ofCard "x".toList (cardOfInteger n)) false
      [9007199254740993, 9007199254740992, -9007199254740993] =
        [-9007199254740993, 9007199254740993, 9007199254740992] ∧
    ∃ x, IsNearestDouble 9007199254740993 x ∧ IsNearestDouble 9007199254740992 x := by
  have hsorted : sortByKey (fun n => SortKey.ofCard "x".toList (cardOfInteger n)) false
      [9007199254740993, 9007199254740992, -9007199254740993] =
        [-9007199254740993, 9007199254740993, 9007199254740992] :=
    ((isStableSortBy_iff_eq_sortByKey cardOfInteger "x".toList false).1
      ⟨by decide, by decide +kernel, by decide +kernel⟩).symm
  have hitems : ∀ n ∈ [9007199254740993, 9007199254740992, -9007199254740993],
      (cardOfInteger n).find "x".toList = .one (.number (.int n)) := fun _ _ => rfl
  obtain ⟨-, -, hpairs⟩ := integers_sort_by_size hitems
  rw [hsorted] at hpairs
  have hlast := (List.pairwise_cons.1 (List.pairwise_cons.1 hpairs).2).1
  exact ⟨hsorted, hlast _ (List.mem_singleton.2 rfl) (by decide)⟩

end Search

end CardSearch
