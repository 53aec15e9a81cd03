import CardSearch.Number.Double
import Mathlib.Tactic.ByContra
import Mathlib.Tactic.SplitIfs

/-!
# Rounding keeps the order

A whole number is rounded to 53 significant bits, how many bits go depending on its
size. For numbers of one size rounding is a division, which keeps the order
(`roundDiv_mono`); between numbers of different size lies a power of two, and rounding
goes past none (`nearestNat_between`). So it keeps the order of all (`nearestNat_mono`),
on both sides of zero.

An integer of at most 53 bits is its own double and that of no other
(`eq_of_nearestInt_eq`). The greatest signed integer of 64 bits is rounded to 2^63, with
all integers up to `greatestNearInt64`.
-/

namespace CardSearch.Number

/-! ## Numbers of one size -/

theorem div_le_roundDiv (n d : Nat) : n / d ≤ roundDiv n d := by
  simp only [roundDiv]
  split
  · exact Nat.le_refl _
  · split
    · exact Nat.le_succ _
    · exact Nat.le_add_right _ _

theorem roundDiv_le (n d : Nat) : roundDiv n d ≤ n / d + 1 := by
  simp only [roundDiv]
  split
  · exact Nat.le_succ _
  · split
    · exact Nat.le_refl _
    · have hparity := Nat.mod_lt (n / d) (show 0 < 2 by decide)
      omega

theorem roundDiv_mono {n m : Nat} (h : n ≤ m) (d : Nat) : roundDiv n d ≤ roundDiv m d := by
  rcases Nat.lt_or_eq_of_le (Nat.div_le_div_right (c := d) h) with hlt | heq
  · calc roundDiv n d ≤ n / d + 1 := roundDiv_le n d
      _ ≤ m / d := hlt
      _ ≤ roundDiv m d := div_le_roundDiv m d
  · -- Of two numbers with one quotient the greater has the greater remainder.
    have hn := Nat.div_add_mod n d
    have hm := Nat.div_add_mod m d
    rw [← heq] at hm
    have hrem : n % d ≤ m % d := by omega
    simp only [roundDiv, ← heq]
    split_ifs <;> omega

theorem roundDiv_mul (k : Nat) {d : Nat} (hd : 0 < d) : roundDiv (k * d) d = k := by
  simp only [roundDiv, Nat.mul_mod_left, Nat.mul_zero, hd, if_true, Nat.mul_div_cancel k hd]

/-- Rounding goes past no value with 53 significant bits, from below or from above. -/
theorem le_nearestNat {k n : Nat} (h : k * Nat.pow 2 (excessBits n) ≤ n) :
    k * Nat.pow 2 (excessBits n) ≤ nearestNat n := by
  have hpos : 0 < Nat.pow 2 (excessBits n) := Nat.two_pow_pos _
  have hround := roundDiv_mono h (Nat.pow 2 (excessBits n))
  rw [roundDiv_mul k hpos] at hround
  exact Nat.mul_le_mul_right _ hround

theorem nearestNat_le {k n : Nat} (h : n ≤ k * Nat.pow 2 (excessBits n)) :
    nearestNat n ≤ k * Nat.pow 2 (excessBits n) := by
  have hpos : 0 < Nat.pow 2 (excessBits n) := Nat.two_pow_pos _
  have hround := roundDiv_mono h (Nat.pow 2 (excessBits n))
  rw [roundDiv_mul k hpos] at hround
  exact Nat.mul_le_mul_right _ hround

/-! ## Numbers of any size -/

/-- A number is rounded within the powers of two around it. -/
theorem nearestNat_between {n : Nat} (hn : n ≠ 0) :
    Nat.pow 2 n.log2 ≤ nearestNat n ∧ nearestNat n ≤ Nat.pow 2 (n.log2 + 1) := by
  have hexcess : excessBits n ≤ n.log2 := Nat.sub_le _ _
  have hsplit : ∀ l, n.log2 ≤ l →
      Nat.pow 2 (l - excessBits n) * Nat.pow 2 (excessBits n) = Nat.pow 2 l := by
    intro l hl
    have hadd := Nat.pow_add 2 (l - excessBits n) (excessBits n)
    rw [Nat.sub_add_cancel (Nat.le_trans hexcess hl)] at hadd
    exact hadd.symm
  have hlow := hsplit n.log2 (Nat.le_refl _)
  have hhigh := hsplit (n.log2 + 1) (Nat.le_succ _)
  constructor
  · rw [← hlow]
    exact le_nearestNat (by rw [hlow]; exact Nat.log2_self_le hn)
  · rw [← hhigh]
    exact nearestNat_le (by rw [hhigh]; exact Nat.le_of_lt Nat.lt_log2_self)

theorem nearestNat_mono {n m : Nat} (h : n ≤ m) : nearestNat n ≤ nearestNat m := by
  by_cases hn : n = 0
  · rw [hn]
    exact Nat.zero_le _
  have hm : m ≠ 0 := fun e => hn (Nat.le_zero.1 (e ▸ h))
  have hlog : n.log2 ≤ m.log2 := (Nat.le_log2 hm).2 (Nat.le_trans (Nat.log2_self_le hn) h)
  rcases Nat.lt_or_eq_of_le hlog with hlt | heq
  · -- A power of two lies between them.
    calc nearestNat n ≤ Nat.pow 2 (n.log2 + 1) := (nearestNat_between hn).2
      _ ≤ Nat.pow 2 m.log2 := Nat.pow_le_pow_right (by decide) hlt
      _ ≤ nearestNat m := (nearestNat_between hm).1
  · have hexcess : excessBits n = excessBits m := by rw [excessBits, excessBits, heq]
    rw [nearestNat, nearestNat, hexcess]
    exact Nat.mul_le_mul_right _ (roundDiv_mono h _)

/-! ## Integers -/

theorem natAbs_nearestInt (n : Int) : (nearestInt n).natAbs = nearestNat n.natAbs := by
  cases n with
  | ofNat n => rfl
  | negSucc n => exact Int.natAbs_neg _

theorem nearestInt_mono {n m : Int} (h : n ≤ m) : nearestInt n ≤ nearestInt m := by
  match n, m, h with
  | .ofNat n, .ofNat m, h => exact Int.ofNat_le.2 (nearestNat_mono (Int.ofNat_le.1 h))
  | .negSucc n, .ofNat m, _ =>
      exact Int.le_trans (Int.neg_nonpos_of_nonneg (Int.natCast_nonneg _)) (Int.natCast_nonneg _)
  | .ofNat n, .negSucc m, h =>
      have hneg : Int.negSucc m < Int.ofNat n :=
        Int.lt_of_lt_of_le (Int.negSucc_lt_zero m) (Int.natCast_nonneg n)
      exact absurd h (Int.not_le.2 hneg)
  | .negSucc n, .negSucc m, h =>
      have hsize : m + 1 ≤ n + 1 := by omega
      exact Int.neg_le_neg (Int.ofNat_le.2 (nearestNat_mono hsize))

theorem nearestInt_eq_self {n : Int} (h : n.natAbs < mantissaCount) : nearestInt n = n := by
  cases n with
  | ofNat n => exact congrArg Int.ofNat (nearestNat_eq_self h)
  | negSucc n =>
      have hself : nearestNat (n + 1) = n + 1 := nearestNat_eq_self h
      rw [nearestInt, hself]
      rfl

theorem eq_of_nearestInt_eq {n m : Int} (hn : n.natAbs < mantissaCount)
    (h : nearestInt n = nearestInt m) : n = m := by
  have hm : m.natAbs < mantissaCount := by
    by_contra hge
    have hround : nearestNat mantissaCount ≤ nearestNat m.natAbs :=
      nearestNat_mono (Nat.le_of_not_lt hge)
    have hfull : nearestNat mantissaCount = mantissaCount := by decide +kernel
    rw [hfull, ← natAbs_nearestInt, ← h, nearestInt_eq_self hn] at hround
    omega
  rwa [nearestInt_eq_self hn, nearestInt_eq_self hm] at h

theorem nearestInt_eq_zero_iff {n : Int} : nearestInt n = 0 ↔ n = 0 := by
  constructor
  · exact fun h => (eq_of_nearestInt_eq (n := 0) (by decide) h.symm).symm
  · rintro rfl
    rfl

/-! ## Around the greatest signed integer of 64 bits -/

/-- The greatest integer that is rounded to 2^63. -/
def greatestNearInt64 : Int := 9223372036854776832

theorem nearestInt_of_near {n : Int} (hlow : maxInt64 < n) (hhigh : n ≤ greatestNearInt64) :
    nearestInt n = maxInt64 + 1 := by
  have hleast : nearestInt (maxInt64 + 1) = maxInt64 + 1 := by decide +kernel
  have hgreatest : nearestInt greatestNearInt64 = maxInt64 + 1 := by decide +kernel
  refine Int.le_antisymm ?_ ?_
  · rw [← hgreatest]
    exact nearestInt_mono hhigh
  · rw [← hleast]
    exact nearestInt_mono hlow

theorem lt_nearestInt_of_beyond {n : Int} (h : greatestNearInt64 < n) :
    maxInt64 + 1 < nearestInt n := by
  have hnext : maxInt64 + 1 < nearestInt (greatestNearInt64 + 1) := by decide +kernel
  exact Int.lt_of_lt_of_le hnext (nearestInt_mono h)

end CardSearch.Number
