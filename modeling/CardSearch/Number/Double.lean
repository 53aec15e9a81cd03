import CardSearch.Number.Integer

/-!
# Doubles as exact numbers

A number with a fraction or an exponent is held as a binary64 value. Here such
a value is what it denotes, a sign, a mantissa and a power of two, so that
rounding, comparing and cutting are plain arithmetic on naturals and integers.
There is no infinity and no NaN: whatever is beyond the greatest double is
refused where it arises.

`nearestNat` and `nearestInt` round a whole number to the nearest value with 53
significant bits, a tie going to the even mantissa. A whole number of at most
53 bits is its own nearest value.
-/

namespace CardSearch.Number

/-- The quotient rounded to the nearest natural, a half going to the even neighbour. -/
def roundDiv (n d : Nat) : Nat :=
  let q := n / d
  let r := n % d
  if 2 * r < d then q else if d < 2 * r then q + 1 else q + q % 2

/-- The number of mantissas of 53 bits, and the least one that needs all of them. -/
def mantissaCount : Nat := 9007199254740992
def leastFullMantissa : Nat := 4503599627370496

/-- How many low bits of a whole number a mantissa of 53 bits cannot hold. -/
def excessBits (n : Nat) : Nat := n.log2 - 52

/-- The whole number rounded to 53 significant bits. -/
def nearestNat (n : Nat) : Nat := roundDiv n (Nat.pow 2 (excessBits n)) * Nat.pow 2 (excessBits n)

/-- The integer rounded to 53 significant bits, alike on both sides of zero. -/
def nearestInt : Int → Int
  | .ofNat n => nearestNat n
  | .negSucc n => -(nearestNat (n + 1) : Int)

theorem roundDiv_one (n : Nat) : roundDiv n 1 = n := by
  simp [roundDiv, Nat.mod_one]

/-- A whole number below 2^53 needs no rounding. -/
theorem nearestNat_eq_self {n : Nat} (h : n < mantissaCount) : nearestNat n = n := by
  have hbits : excessBits n = 0 := by
    rcases Nat.eq_zero_or_pos n with rfl | hn
    · rfl
    · have : n.log2 < 53 := (Nat.log2_lt (by omega)).2 h
      simp only [excessBits]
      omega
  simp [nearestNat, hbits, roundDiv_one]

/-- The value ±mantissa · 2^exponent. -/
structure Double where
  negative : Bool
  mantissa : Nat
  exponent : Int
deriving DecidableEq, Repr

namespace Double

/-- The least exponent of a double. -/
def minExponent : Int := -1074

/-- The greatest exponent of a double with a full mantissa. -/
def maxExponent : Int := 971

/-- The zero of a sign. -/
def zero (negative : Bool) : Double := ⟨negative, 0, minExponent⟩

def isZero (x : Double) : Bool := x.mantissa == 0

def neg (x : Double) : Double := { x with negative := !x.negative }

/-- Numerator and denominator of num / den · 2^(-e). -/
def scale (num den : Nat) (e : Int) : Nat × Nat :=
  if 0 ≤ e then (num, den * Nat.pow 2 e.toNat) else (num * Nat.pow 2 (-e).toNat, den)

/-- The double nearest to ±num / den, or nothing when that lies beyond the greatest double. -/
def ofRatio? (negative : Bool) (num den : Nat) : Option Double :=
  if num = 0 then some (zero negative)
  else
    let least := max minExponent ((num.log2 : Int) - den.log2 - 53)
    let low := scale num den least
    let e := if low.1 / low.2 < mantissaCount then least else least + 1
    let exact := scale num den e
    let m := roundDiv exact.1 exact.2
    let x : Double :=
      if m = mantissaCount then ⟨negative, leastFullMantissa, e + 1⟩ else ⟨negative, m, e⟩
    if maxExponent < x.exponent then none else some x

/-- The magnitude as numerator and denominator. -/
def magnitude (x : Double) : Nat × Nat :=
  if 0 ≤ x.exponent then (x.mantissa * Nat.pow 2 x.exponent.toNat, 1)
  else (x.mantissa, Nat.pow 2 (-x.exponent).toNat)

/-- The numerator with its sign, over the denominator of `magnitude`. -/
def numerator (x : Double) : Int :=
  if x.negative then -(x.magnitude.1 : Int) else x.magnitude.1

def denominator (x : Double) : Nat := x.magnitude.2

/-- The product, rounded once. -/
def mul? (x y : Double) : Option Double :=
  ofRatio? (x.negative != y.negative) (x.magnitude.1 * y.magnitude.1)
    (x.magnitude.2 * y.magnitude.2)

/-- The quotient, rounded once; the divisor is not zero. -/
def div? (x y : Double) : Option Double :=
  ofRatio? (x.negative != y.negative) (x.magnitude.1 * y.magnitude.2)
    (x.magnitude.2 * y.magnitude.1)

/-- The value without its fraction, cut toward zero. -/
def truncate (x : Double) : Int := x.numerator.tdiv x.denominator

/-- How the value compares with an integer. -/
def compareInt (x : Double) (n : Int) : Ordering := compare x.numerator (n * x.denominator)

/-- The power of ten as a double; exponents beyond 308 have none. -/
def powerOfTen? (k : Nat) : Option Double := ofRatio? false (Nat.pow 10 k) 1

/-- The greatest power of ten that is a double. -/
def maxPowerOfTen : Nat := 308

/-- The value divided a number of times by 10^308, each time rounded; zero stays zero. -/
def divGreatestPower : Nat → Double → Option Double
  | 0, x => some x
  | n + 1, x =>
    if x.isZero then some x
    else ((powerOfTen? maxPowerOfTen).bind x.div?).bind (divGreatestPower n)

/-- The value divided by 10^k in steps of at most 10^308, each of which rounds. -/
def divPowerOfTen (x : Double) (k : Nat) : Option Double :=
  let steps := (k - 1) / maxPowerOfTen
  (divGreatestPower steps x).bind fun y =>
    (powerOfTen? (k - steps * maxPowerOfTen)).bind fun p => if y.isZero then some y else y.div? p

/--
The double that the decimal ±significand · 10^exponent is read as: the
significand as a double, multiplied or divided by the power of ten as a double.
Beyond the greatest double there is none, and zero has every exponent.
-/
def ofDecimal? (negative : Bool) (significand : Nat) (exponent : Int) : Option Double := do
  let x ← ofRatio? negative significand 1
  if exponent < 0 then x.divPowerOfTen exponent.natAbs
  else if exponent.toNat ≤ maxPowerOfTen then (← powerOfTen? exponent.toNat).mul? x
  else if x.isZero then some x
  else none

end Double

end CardSearch.Number
