import CardSearch.Proofs.InstantText
import CardSearch.Proofs.Walks

/-!
# Spans are exact

A span is written as a signed decimal with the name of a unit behind it. The grammar is
given apart from the reader: `IsSpelled` says which amount and which unit a text names,
and a unit has factors by which its amount is multiplied, one after the other, to come to
seconds. The digits end where the name begins, so the reader takes apart what the grammar
put together (`readSpan?_spelled`), and what it accepts was put together so
(`exists_isSpelled_of_readSpan?`).

The reader multiplies once, without a bound, and looks at the size of the result. That is
as good as keeping every product to 64 bits (`checked?_factors`): the sizes only grow, and
no result beyond the longest span is taken.
-/

namespace CardSearch

namespace Time

open Number (IsWritten IsDigits isInt64 minInt64 maxInt64)

/-! ## The grammar of spans -/

/-- What an amount is multiplied by, one factor after the other, to come to seconds. -/
def SpanUnit.factors : SpanUnit → List Int
  | minute => [60]
  | hour => [3600]
  | day => [86400]
  | week => [604800]
  | month => [30, 86400]
  | year => [365, 86400]

/-- The names of the units. -/
def unitNames : List (List Char × SpanUnit) :=
  [(['m'], .minute), (['m', 'i', 'n'], .minute), (['h'], .hour), (['h', 'r'], .hour),
   (['d'], .day), (['w'], .week), (['w', 'k'], .week), (['M'], .month), (['m', 'o'], .month),
   (['y'], .year), (['y', 'r'], .year)]

/-- A text that is a decimal, with a sign or without, and the name of a unit. -/
inductive IsSpelled : List Char → Int → SpanUnit → Prop
  | mk {amount name : List Char} {n : Int} {unit : SpanUnit} (hamount : IsWritten amount n)
      (hname : (name, unit) ∈ unitNames) : IsSpelled (amount ++ name) n unit

/-- The seconds that a text stands for: none for `NOW`, and for a text that spells a
signed integer of 64 bits the product with its unit, if that is no more than 2^63 - 1
milliseconds in size. -/
inductive IsSpanText : List Char → Int → Prop
  | now : IsSpanText ['N', 'O', 'W'] 0
  | spelled {s : List Char} {n : Int} {unit : SpanUnit} (hspelled : IsSpelled s n unit)
      (hamount : -2 ^ 63 ≤ n ∧ n < 2 ^ 63)
      (hproduct : (n * unit.factors.prod).natAbs ≤ (2 ^ 63 - 1) / 1000) :
      IsSpanText s (n * unit.factors.prod)

/-- The product of an amount with factors, when neither the amount nor any product on the
way is beyond a signed integer of 64 bits. -/
def checked? (n : Int) : List Int → Option Int
  | [] => if isInt64 n then some n else none
  | k :: factors => if isInt64 n then checked? (n * k) factors else none

/-! ## Units and their factors -/

theorem SpanUnit.ofName?_eq_some_iff {name : List Char} {unit : SpanUnit} :
    ofName? name = some unit ↔ (name, unit) ∈ unitNames := by
  constructor
  · intro h
    unfold ofName? at h
    split at h <;> cases h <;> decide
  · intro h
    simp only [unitNames, List.mem_cons, List.not_mem_nil, or_false, Prod.mk.injEq] at h
    rcases h with ⟨rfl, rfl⟩ | ⟨rfl, rfl⟩ | ⟨rfl, rfl⟩ | ⟨rfl, rfl⟩ | ⟨rfl, rfl⟩ | ⟨rfl, rfl⟩ |
      ⟨rfl, rfl⟩ | ⟨rfl, rfl⟩ | ⟨rfl, rfl⟩ | ⟨rfl, rfl⟩ | ⟨rfl, rfl⟩ <;> rfl

theorem SpanUnit.prod_factors (unit : SpanUnit) : unit.factors.prod = unit.seconds := by
  cases unit <;> rfl

/-- Names of units begin with a letter. -/
theorem isDigit_head_of_mem_unitNames {name : List Char} {unit : SpanUnit}
    (h : (name, unit) ∈ unitNames) : ∀ c ∈ name.head?, c.isDigit = false := by
  have hheads : ∀ entry ∈ unitNames, entry.1.head?.all (!Char.isDigit ·) = true := by decide
  intro c hc
  have hhead := hheads _ h
  rw [Option.mem_def] at hc
  rw [hc] at hhead
  simpa using hhead

theorem isInt64_iff {n : Int} : isInt64 n = true ↔ -2 ^ 63 ≤ n ∧ n < 2 ^ 63 := by
  rw [isInt64, Bool.and_eq_true, decide_eq_true_eq, decide_eq_true_eq, minInt64, maxInt64]
  omega

theorem isSpan_iff {n : Int} : isSpan n = true ↔ n.natAbs ≤ (2 ^ 63 - 1) / 1000 := by
  rw [isSpan, Bool.and_eq_true, decide_eq_true_eq, decide_eq_true_eq, maxSpan]
  omega

/-! ## Products that fit 64 bits -/

/-- A factor makes an amount no smaller. -/
theorem isInt64_of_mul {n k : Int} (hk : 0 < k) (h : isInt64 (n * k) = true) :
    isInt64 n = true := by
  rw [isInt64_iff] at h ⊢
  rcases Int.lt_or_le n 0 with hneg | hpos
  · have hgrows : n * k ≤ n * 1 := Int.mul_le_mul_of_nonpos_left (Int.le_of_lt hneg) hk
    omega
  · have hgrows : n * 1 ≤ n * k := Int.mul_le_mul_of_nonneg_left hk hpos
    omega

theorem checked?_eq_some_iff {factors : List Int} (hpos : ∀ k ∈ factors, 0 < k) {n m : Int} :
    checked? n factors = some m ↔ n * factors.prod = m ∧ isInt64 m = true := by
  induction factors generalizing n with
  | nil =>
      rw [checked?, List.prod_nil, Int.mul_one, Option.ite_none_right_eq_some, Option.some_inj]
      constructor
      · rintro ⟨hn, rfl⟩
        exact ⟨rfl, hn⟩
      · rintro ⟨rfl, hn⟩
        exact ⟨hn, rfl⟩
  | cons k factors ih =>
      have hprod : 0 < (k :: factors).prod := List.prod_pos hpos
      rw [checked?, Option.ite_none_right_eq_some,
        ih fun k hk => hpos k (List.mem_cons_of_mem _ hk), List.prod_cons, Int.mul_assoc]
      refine and_iff_right_of_imp ?_
      rintro ⟨rfl, hfits⟩
      rw [← List.prod_cons] at hfits
      exact isInt64_of_mul hprod hfits

/-- When a span comes out, no product on the way was too great. -/
theorem checked?_factors {n : Int} {unit : SpanUnit} (h : isSpan (n * unit.seconds) = true) :
    checked? n unit.factors = some (n * unit.seconds) := by
  have hpos : ∀ k ∈ unit.factors, 0 < k := by cases unit <;> decide
  rw [isSpan_iff] at h
  rw [checked?_eq_some_iff hpos, unit.prod_factors, isInt64_iff]
  exact ⟨rfl, by omega⟩

/-! ## The reader and the grammar -/

/-- A decimal as the reader takes it apart: whether a minus stands before its digits. -/
def signed (negative : Bool) (ds : List Char) : Int :=
  if negative then -(Number.ofDigits ds : Int) else Number.ofDigits ds

theorem splitSign_of_isDigits {ds : List Char} (h : IsDigits ds) (name : List Char) :
    splitSign (ds ++ name) = (false, ds ++ name) := by
  obtain ⟨c, ds, rfl⟩ := List.exists_cons_of_ne_nil h.1
  have hdigit := h.2 c List.mem_cons_self
  rw [List.cons_append]
  unfold splitSign
  split
  · next heq => exact absurd (List.head_eq_of_cons_eq heq) (Text.ne_of_test hdigit rfl)
  · next heq => exact absurd (List.head_eq_of_cons_eq heq) (Text.ne_of_test hdigit rfl)
  · rfl

theorem isSpelled_iff {s : List Char} {n : Int} {unit : SpanUnit} :
    IsSpelled s n unit ↔
      ∃ negative ds name, splitSign s = (negative, ds ++ name) ∧ IsDigits ds ∧
        (name, unit) ∈ unitNames ∧ signed negative ds = n := by
  constructor
  · rintro ⟨hamount, hname⟩
    cases hamount with
    | plain hds => exact ⟨false, _, _, splitSign_of_isDigits hds _, hds, hname, rfl⟩
    | plus hds => exact ⟨false, _, _, rfl, hds, hname, rfl⟩
    | minus hds => exact ⟨true, _, _, rfl, hds, hname, rfl⟩
  · rintro ⟨negative, ds, name, hsign, hds, hname, rfl⟩
    unfold splitSign at hsign
    split at hsign
    · obtain ⟨rfl, rfl⟩ := Prod.mk.inj hsign
      exact .mk (.minus hds) hname
    · obtain ⟨rfl, rfl⟩ := Prod.mk.inj hsign
      exact .mk (.plus hds) hname
    · obtain ⟨rfl, rfl⟩ := Prod.mk.inj hsign
      exact .mk (.plain hds) hname

/-- The digits end where the name of the unit begins. -/
theorem cut_digits {ds name : List Char} {unit : SpanUnit} (hds : IsDigits ds)
    (hname : (name, unit) ∈ unitNames) :
    (ds ++ name).takeWhile Char.isDigit = ds ∧ (ds ++ name).dropWhile Char.isDigit = name := by
  have htake := takeWhile_isDigit_append hds.2 (isDigit_head_of_mem_unitNames hname)
  have hcut := List.takeWhile_append_dropWhile (p := Char.isDigit) (l := ds ++ name)
  rw [htake] at hcut
  exact ⟨htake, List.append_cancel_left hcut⟩

theorem IsSpelled.ne_nowName {s : List Char} {n : Int} {unit : SpanUnit} (h : IsSpelled s n unit) :
    s ≠ nowName := by
  rintro rfl
  obtain ⟨negative, ds, name, hsign, hds, hname, -⟩ := isSpelled_iff.1 h
  obtain ⟨-, hbody⟩ := Prod.mk.inj hsign
  obtain ⟨c, ds, rfl⟩ := List.exists_cons_of_ne_nil hds.1
  have hdigit := hds.2 c List.mem_cons_self
  rw [← List.head_eq_of_cons_eq hbody] at hdigit
  cases hdigit

theorem readSpan?_spelled {s : List Char} {n : Int} {unit : SpanUnit} (h : IsSpelled s n unit) :
    readSpan? s =
      if isInt64 n && isSpan (n * unit.seconds) then some (n * unit.seconds) else none := by
  obtain ⟨negative, ds, name, hsign, hds, hname, rfl⟩ := isSpelled_iff.1 h
  obtain ⟨htake, hdrop⟩ := cut_digits hds hname
  rw [readSpan?, if_neg h.ne_nowName, hsign]
  simp only [htake, hdrop]
  rw [Number.readNat?_eq_some_iff.2 ⟨hds, rfl⟩, SpanUnit.ofName?_eq_some_iff.2 hname]
  rfl

/-- What is read as a span was spelled, unless it is the word for no span. -/
theorem exists_isSpelled_of_readSpan? {s : List Char} {m : Int} (h : readSpan? s = some m)
    (hnow : s ≠ nowName) : ∃ n unit, IsSpelled s n unit := by
  rw [readSpan?, if_neg hnow] at h
  obtain ⟨k, hk, h⟩ := Option.bind_eq_some_iff.1 h
  obtain ⟨unit, hunit, -⟩ := Option.bind_eq_some_iff.1 h
  refine ⟨_, unit, isSpelled_iff.2 ⟨(splitSign s).1, _, _, ?_, (Number.readNat?_eq_some_iff.1 hk).1,
    SpanUnit.ofName?_eq_some_iff.1 hunit, rfl⟩⟩
  rw [List.takeWhile_append_dropWhile]
  rfl

theorem readSpan?_eq_some_iff {s : List Char} {m : Int} :
    readSpan? s = some m ↔ IsSpanText s m := by
  constructor
  · intro h
    by_cases hnow : s = nowName
    · subst hnow
      obtain rfl := Option.some.inj h
      exact .now
    · obtain ⟨n, unit, hspelled⟩ := exists_isSpelled_of_readSpan? h hnow
      rw [readSpan?_spelled hspelled, Option.ite_none_right_eq_some, Option.some_inj,
        Bool.and_eq_true, isInt64_iff, isSpan_iff, ← unit.prod_factors] at h
      obtain ⟨⟨hamount, hproduct⟩, rfl⟩ := h
      exact .spelled hspelled hamount hproduct
  · intro h
    cases h with
    | now => rfl
    | spelled hspelled hamount hproduct =>
        rw [readSpan?_spelled hspelled, SpanUnit.prod_factors]
        rw [SpanUnit.prod_factors] at hproduct
        exact if_pos (Bool.and_eq_true_iff.2 ⟨isInt64_iff.2 hamount, isSpan_iff.2 hproduct⟩)

theorem readSpan_eq_ok_iff {s : String} {m : Int} :
    readSpan s = .ok m ↔ IsSpanText s.toList m := by
  rw [← readSpan?_eq_some_iff, readSpan]
  cases readSpan? s.toList with
  | none => exact ⟨nofun, nofun⟩
  | some k => rw [Except.ok.injEq, Option.some_inj]

theorem readSpan_eq_error_iff {s : String} {e : NotASpan} :
    readSpan s = .error e ↔ e = ⟨s⟩ ∧ ∀ m, ¬ IsSpanText s.toList m := by
  simp only [← readSpan?_eq_some_iff, readSpan]
  cases readSpan? s.toList with
  | none =>
      rw [Except.error.injEq, eq_comm]
      exact (and_iff_left nofun).symm
  | some k => exact ⟨nofun, fun h => absurd rfl (h.2 k)⟩

/-- The seconds that a string stands for are those of the grammar, and every other string
is refused with its own text. A string that spells an amount of a unit stands for their
product made within 64 bits, and where one of the products does not fit it is refused. -/
theorem spans_are_exact (s : String) :
    (∀ m, readSpan s = .ok m ↔ IsSpanText s.toList m) ∧
    (∀ e, readSpan s = .error e ↔ e = ⟨s⟩ ∧ ∀ m, ¬ IsSpanText s.toList m) ∧
    ∀ n unit, IsSpelled s.toList n unit →
      (∀ m, readSpan s = .ok m → checked? n unit.factors = some m) ∧
      (checked? n unit.factors = none → readSpan s = .error ⟨s⟩) := by
  refine ⟨fun m => readSpan_eq_ok_iff, fun e => readSpan_eq_error_iff, fun n unit h => ?_⟩
  have hproduct : ∀ m, readSpan s = .ok m → checked? n unit.factors = some m := by
    intro m hm
    have hread := readSpan?_eq_some_iff.2 (readSpan_eq_ok_iff.1 hm)
    rw [readSpan?_spelled h, Option.ite_none_right_eq_some, Option.some_inj,
      Bool.and_eq_true] at hread
    obtain ⟨⟨-, hspan⟩, rfl⟩ := hread
    exact checked?_factors hspan
  refine ⟨hproduct, fun hnone => readSpan_eq_error_iff.2 ⟨rfl, fun m hm => ?_⟩⟩
  have hsome := hproduct m (readSpan_eq_ok_iff.2 hm)
  rw [hnone] at hsome
  cases hsome

/-- The most days of a span, with a sign and a zero in front, and an amount of months that
is too great once it is counted in days. -/
theorem spans_are_exact_at_bounds :
    readSpan "+0106751991167d" = .ok 9223372036828800 ∧
    readSpan "-307445734561825861M" = .error ⟨"-307445734561825861M"⟩ := by
  have hplus : Number.IsDigits "0106751991167".toList := ⟨by decide, List.all_eq_true.1 rfl⟩
  have hminus : Number.IsDigits "307445734561825861".toList := ⟨by decide, List.all_eq_true.1 rfl⟩
  have hdays : IsSpelled "+0106751991167d".toList 106751991167 .day :=
    .mk (.plus hplus) (by decide)
  have hmonths : IsSpelled "-307445734561825861M".toList (-307445734561825861) .month :=
    .mk (.minus hminus) (by decide)
  refine ⟨((spans_are_exact _).1 _).2 ?_, ((spans_are_exact _).2.2 _ _ hmonths).2 (by decide)⟩
  exact .spelled hdays (by decide) (by decide)

end Time

end CardSearch
