/-!
# Decimal integers in text

Whole numbers appear in queries, list positions, page sizes and setting files.
All of them are read the same way: an optional sign, then one or more ASCII
digits and nothing else, then a check that the value lies in the range at hand.
-/

namespace CardSearch.Number

/-- The least and greatest value of a 64-bit signed integer. -/
def minInt64 : Int := -9223372036854775808
def maxInt64 : Int := 9223372036854775807

/-- The number of 64-bit unsigned integers. -/
def wordSize : Nat := 18446744073709551616

/-- Whether the value is one of the 64-bit signed integers. -/
def isInt64 (n : Int) : Bool := minInt64 ≤ n && n ≤ maxInt64

/-- The value of an ASCII digit. -/
def digitValue (c : Char) : Nat := c.toNat - '0'.toNat

/-- The value of a run of digits, written most significant first. -/
def ofDigits (ds : List Char) : Nat := ds.foldl (fun n c => n * 10 + digitValue c) 0

/-- The value of a hexadecimal digit in either case. -/
def hexValue? (c : Char) : Option Nat :=
  if '0' ≤ c ∧ c ≤ '9' then some (c.toNat - '0'.toNat)
  else if 'a' ≤ c ∧ c ≤ 'f' then some (c.toNat - 'a'.toNat + 10)
  else if 'A' ≤ c ∧ c ≤ 'F' then some (c.toNat - 'A'.toNat + 10)
  else none

/-- The value of a run of hexadecimal digits. -/
def ofHex? (ds : List Char) : Option Nat :=
  ds.foldlM (fun n c => (hexValue? c).map (n * 16 + ·)) 0

/-- The character with a code point. -/
def charOfCode? (n : Nat) : Option Char :=
  if n < 0xD800 ∨ 0xDFFF < n ∧ n < 0x110000 then some (Char.ofNat n) else none

/-- One or more ASCII digits and nothing else. -/
def readNat? (s : List Char) : Option Nat :=
  if s ≠ [] ∧ s.all Char.isDigit then some (ofDigits s) else none

/-- An optional sign and one or more ASCII digits. -/
def readInt? : List Char → Option Int
  | '-' :: ds => (readNat? ds).map fun n => -(n : Int)
  | '+' :: ds => (readNat? ds).map Int.ofNat
  | ds => (readNat? ds).map Int.ofNat

/-- A signed integer of 64 bits. -/
def readInt64? (s : List Char) : Option Int := (readInt? s).filter isInt64

/-- An unsigned integer of 64 bits; a plus sign is allowed, a minus sign is not. -/
def readWord? (s : List Char) : Option Nat :=
  let ds := match s with
    | '+' :: ds => ds
    | ds => ds
  (readNat? ds).filter (· < wordSize)

/-- Decimal digits of a number, without leading zeros. -/
def digits (n : Nat) : List Char := Nat.toDigits 10 n

/-- A number in decimal, filled with zeros on the left up to a width. -/
def padded (width n : Nat) : List Char :=
  let ds := digits n
  List.replicate (width - ds.length) '0' ++ ds

/-- An integer in decimal, with a minus sign when negative. -/
def decimal : Int → List Char
  | .ofNat n => digits n
  | .negSucc n => '-' :: digits (n + 1)

/-! ## Digits and their value -/

theorem ofDigits_eq_ofDigitChars (ds : List Char) : ofDigits ds = Nat.ofDigitChars 10 ds 0 := by
  have hstep : (fun n c => n * 10 + digitValue c) = fun n c => 10 * n + (c.toNat - '0'.toNat) := by
    funext n c
    rw [Nat.mul_comm, digitValue]
  rw [ofDigits, Nat.ofDigitChars_eq_foldl, hstep]

theorem ofDigits_digits (n : Nat) : ofDigits (digits n) = n := by
  rw [ofDigits_eq_ofDigitChars]
  exact Nat.ofDigitChars_ten_toDigits

theorem isDigit_of_mem_digits {n : Nat} {c : Char} (h : c ∈ digits n) : c.isDigit = true :=
  Nat.isDigit_of_mem_toDigits (by decide) (by decide) h

/-- A decimal is made of digits, a minus sign aside. -/
theorem isDigit_of_mem_decimal {n : Int} {c : Char} (h : c ∈ decimal n) :
    c = '-' ∨ c.isDigit = true := by
  cases n with
  | ofNat n => exact Or.inr (isDigit_of_mem_digits h)
  | negSucc n =>
    rcases List.mem_cons.1 h with hminus | hdigit
    · exact Or.inl hminus
    · exact Or.inr (isDigit_of_mem_digits hdigit)

theorem not_mem_digits {c : Char} (h : c.isDigit = false) (n : Nat) : c ∉ digits n := by
  intro hmem
  rw [isDigit_of_mem_digits hmem] at h
  cases h

theorem not_mem_decimal {c : Char} (hminus : c ≠ '-') (hdigit : c.isDigit = false) (n : Int) :
    c ∉ decimal n := by
  intro hmem
  rcases isDigit_of_mem_decimal hmem with hc | hc
  · exact hminus hc
  · rw [hdigit] at hc
    cases hc

theorem readNat?_digits (n : Nat) : readNat? (digits n) = some n := by
  have hdigits : (digits n).all Char.isDigit = true :=
    List.all_eq_true.2 fun c hc => isDigit_of_mem_digits hc
  rw [readNat?, if_pos ⟨Nat.toDigits_ne_nil, hdigits⟩, ofDigits_digits]

/-- A decimal reads back as its number. -/
theorem readInt?_decimal (n : Int) : readInt? (decimal n) = some n := by
  cases n with
  | ofNat n =>
    have hfirst : ∀ c ∈ (digits n).head?, c.isDigit = true := fun c hc =>
      isDigit_of_mem_digits (List.mem_of_mem_head? hc)
    show readInt? (digits n) = _
    unfold readInt?
    split
    · next ds heq =>
      rw [heq] at hfirst
      exact absurd (hfirst '-' rfl) (by decide)
    · next ds heq =>
      rw [heq] at hfirst
      exact absurd (hfirst '+' rfl) (by decide)
    · rw [readNat?_digits]
      rfl
  | negSucc n =>
    rw [decimal, readInt?, readNat?_digits]
    rfl

theorem decimal_injective {n m : Int} (h : decimal n = decimal m) : n = m := by
  have hread := congrArg readInt? h
  rw [readInt?_decimal, readInt?_decimal] at hread
  exact Option.some.inj hread

/-- Only zero begins with a zero. -/
theorem head_digits {n : Nat} (h : 0 < n) : (digits n).head? ≠ some '0' := by
  induction n using Nat.strongRecOn with
  | _ n ih =>
    by_cases hn : n < 10
    · have hdigit : ∀ m < 10, 0 < m → Nat.digitChar m ≠ '0' := by decide
      rw [digits, Nat.toDigits_of_lt_base hn]
      simpa using hdigit n hn h
    · have hhead := ih (n / 10) (by omega) (by omega)
      rw [digits, Nat.toDigits_of_base_le (by decide) (by omega)]
      rwa [List.head?_append, Option.or_of_isSome (by simp [Nat.toDigits_ne_nil])]

/-- Zeros on the left do not count. -/
theorem ofDigits_padded (width n : Nat) : ofDigits (padded width n) = n := by
  rw [ofDigits_eq_ofDigitChars, padded, Nat.ofDigitChars_append, Nat.ofDigitChars_replicate_zero,
    Nat.mul_zero, ← ofDigits_eq_ofDigitChars, ofDigits_digits]

theorem isDigit_of_mem_padded {width n : Nat} {c : Char} (h : c ∈ padded width n) :
    c.isDigit = true := by
  rcases List.mem_append.1 h with hzero | hdigit
  · rw [List.eq_of_mem_replicate hzero]
    rfl
  · exact isDigit_of_mem_digits hdigit

theorem not_mem_padded {c : Char} (h : c.isDigit = false) (width n : Nat) : c ∉ padded width n := by
  intro hmem
  rw [isDigit_of_mem_padded hmem] at h
  cases h

end CardSearch.Number
