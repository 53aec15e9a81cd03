import CardSearch.Number.Double

/-!
# The shortest decimal of a double

A double is written with the fewest digits that read back to it. The reals that
round to a double form an interval around it, its ends included exactly when
the mantissa is even, and a decimal with few digits is a multiple of a high
power of ten. So the digits are those of the multiple of the greatest power of
ten that has one in the interval; of two multiples the nearer is taken, and the
even one on a tie.
-/

namespace CardSearch.Number

/-- The value digits · 10^exponent. -/
structure Decimal where
  digits : Nat
  exponent : Int
deriving DecidableEq, Repr

namespace Double

/-- The distance to the lower end of the rounding interval, in quarters of the last place. -/
def lowerGap (x : Double) : Nat :=
  if x.mantissa = leastFullMantissa ∧ minExponent < x.exponent then 1 else 2

/-- How x · 10^k and n quarters of the last place of the double are brought to one unit. -/
def quarterScale (x : Double) (k : Int) : Nat × Nat :=
  let e := x.exponent - 2
  (Nat.pow 10 k.toNat * Nat.pow 2 (-e).toNat, Nat.pow 10 (-k).toNat * Nat.pow 2 e.toNat)

/-- Whether n · 10^k rounds to the magnitude of the double. -/
def readsBack (x : Double) (n : Nat) (k : Int) : Bool :=
  let s := x.quarterScale k
  let value := n * s.1
  let low := (4 * x.mantissa - x.lowerGap) * s.2
  let high := (4 * x.mantissa + 2) * s.2
  if x.mantissa % 2 = 0 then low ≤ value && value ≤ high else low < value && value < high

/-- The multiple of 10^k that stands for the double, if one reads back. -/
def multiple? (x : Double) (k : Int) : Option Decimal :=
  let s := x.quarterScale k
  let exact := 4 * x.mantissa * s.2
  let below := exact / s.1
  let lower := below ≠ 0 && x.readsBack below k
  let upper := x.readsBack (below + 1) k
  let nearest :=
    if exact * 2 < (2 * below + 1) * s.1 then below
    else if (2 * below + 1) * s.1 < exact * 2 then below + 1
    else below + below % 2
  if lower && upper then some ⟨nearest, k⟩
  else if lower then some ⟨below, k⟩
  else if upper then some ⟨below + 1, k⟩
  else none

/-- The first hit among 10^k, 10^(k-1), … -/
def firstMultiple (x : Double) : Nat → Int → Decimal
  | 0, k => ⟨0, k⟩
  | fuel + 1, k => (x.multiple? k).getD (x.firstMultiple fuel (k - 1))

/-- Every double has a decimal of at most this many digits that reads back. -/
def maxDigits : Nat := 17

/-- The shortest decimal of the magnitude. -/
def shortest (x : Double) : Decimal :=
  let bits := x.exponent + x.mantissa.log2 + 1
  x.firstMultiple (maxDigits + 4) (bits * 30103 / 100000 + 1)

/-- The places of the point, counted from the first digit, at which a number is written out. -/
structure PointRange where
  least : Int
  greatest : Int

/-- In records a magnitude of at least 10^-5 and below 10^16 is written out. -/
def writtenOut : PointRange := ⟨-4, 16⟩

/-- The digits with a point after the first `point` of them, zeros filling up on either side. -/
def positional (ds : List Char) (point : Int) : List Char :=
  let n : Int := ds.length
  if point ≤ 0 then '0' :: '.' :: List.replicate (-point).toNat '0' ++ ds
  else if n ≤ point then ds ++ List.replicate (point - n).toNat '0' ++ ['.', '0']
  else ds.take point.toNat ++ '.' :: ds.drop point.toNat

/-- One digit, the others after a point, and the power of ten with its sign. -/
def scientific (ds : List Char) (point : Int) : List Char :=
  let e := point - 1
  let fraction := if ds.length ≤ 1 then [] else '.' :: ds.drop 1
  ds.take 1 ++ fraction ++ 'e' :: (if e < 0 then '-' else '+') :: digits e.natAbs

/-- The text of a double: its shortest decimal, with a point or an exponent. -/
def text (x : Double) : List Char :=
  let sign := if x.negative then ['-'] else []
  if x.isZero then sign ++ ['0', '.', '0']
  else
    let d := x.shortest
    let ds := digits d.digits
    let point : Int := ds.length + d.exponent
    let body :=
      if writtenOut.least ≤ point ∧ point ≤ writtenOut.greatest then positional ds point
      else scientific ds point
    sign ++ body

end Double

end CardSearch.Number
