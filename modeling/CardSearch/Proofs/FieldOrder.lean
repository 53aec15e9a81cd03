import CardSearch.Proofs.Sorting

/-!
# The order of a field

Items are sorted by keys that are made once, and two cards are compared by keys made for
the comparison. Cards are level in the comparison iff they have one key
(`compareBy_eq_eq_iff`), so a stable sort by the keys and a stable sort by the comparison
are the same thing, and there is one of them only (`IsStableSort.unique`). Nothing here
asks what the items are: a card, or a row of a store, which tells two equal cards apart.

The key of a card falls into the band of what its field holds, and bands do not overlap
in the order of keys (`rank_le_of_isLE`).
-/

namespace CardSearch

/-! ## Bands of values -/

/-- Where a find comes in ascending order: nothing and `false`, whole numbers, all that is
sorted by its text, and `true`. -/
def Found.band : Found → Nat
  | .absent | .one .null | .one (.bool false) => 0
  | .one (.number (.int _)) => 1
  | .one (.string _) | .one (.number (.float _)) | .one (.array _) | .one (.object _)
  | .many _ => 2
  | .one (.bool true) => 3

namespace SortKey

theorem rank_ofFound (f : Found) : (ofFound f).rank = f.band := by
  cases f with
  | absent => rfl
  | many vs => rfl
  | one v =>
      cases v with
      | bool b => cases b <;> rfl
      | number n => cases n <;> rfl
      | null | string s | array items | object fields => rfl

theorem rank_le_of_isLE {a b : SortKey} (h : (a.compare b).isLE = true) : a.rank ≤ b.rank := by
  refine Nat.le_of_not_lt fun hlt => ?_
  have hrank : compareOn rank a b = .gt := Nat.compare_eq_gt.2 hlt
  rw [compare_eq_lex, compareLex, hrank] at h
  cases h

theorem isLE_total (a b : SortKey) : (a.compare b).isLE = true ∨ (b.compare a).isLE = true := by
  have hswap : b.compare a = (a.compare b).swap := Std.OrientedCmp.eq_swap
  rw [hswap]
  cases a.compare b with
  | lt => exact Or.inl rfl
  | eq => exact Or.inl rfl
  | gt => exact Or.inr rfl

end SortKey

theorem Card.compareBy_eq_eq_iff {field : List Char} {descending : Bool} {a b : Card} :
    a.compareBy field descending b = .eq ↔ SortKey.ofCard field b = SortKey.ofCard field a := by
  constructor
  · intro h
    have hlevel : (SortKey.ofCard field a).compareIn descending (SortKey.ofCard field b) = .eq := h
    exact (Std.LawfulEqCmp.eq_of_compare hlevel).symm
  · intro h
    rw [compareBy, h]
    exact Std.ReflCmp.compare_self

namespace Search

/-! ## Stable sorts by a comparison -/

/-- The items in order of a comparison, those that are level in it as they stood. -/
structure IsStableSortBy {α : Type} (cmp : α → α → Ordering) (items sorted : List α) : Prop where
  perm : sorted.Perm items
  ordered : sorted.Pairwise fun a b => cmp a b ≠ .gt
  stable : ∀ a ∈ items, sorted.filter (cmp a · = .eq) = items.filter (cmp a · = .eq)

section Items

variable {α : Type} (card : α → Card) (field : List Char) (descending : Bool)

/-- The items that are level with one of them are those with its key. -/
theorem filter_level_eq (a : α) (items : List α) :
    items.filter (fun b => (card a).compareBy field descending (card b) = .eq) =
      items.filter (fun b => SortKey.ofCard field (card b) = SortKey.ofCard field (card a)) :=
  congrArg (List.filter · items) (funext fun _ => decide_eq_decide.2 Card.compareBy_eq_eq_iff)

theorem isStableSortBy_iff {items sorted : List α} :
    IsStableSortBy (fun a b => (card a).compareBy field descending (card b)) items sorted ↔
      IsStableSort (fun a => SortKey.ofCard field (card a)) descending items sorted := by
  constructor
  · intro h
    refine ⟨h.perm, h.ordered, fun k => ?_⟩
    by_cases hk : ∃ a ∈ items, SortKey.ofCard field (card a) = k
    · obtain ⟨a, ha, rfl⟩ := hk
      have hlevel := h.stable a ha
      rwa [filter_level_eq, filter_level_eq] at hlevel
    · -- No item has the key, before the sort or after it.
      have hnone : items.filter (fun a => SortKey.ofCard field (card a) = k) = [] := by
        refine List.filter_eq_nil_iff.2 fun a ha hkey => hk ⟨a, ha, of_decide_eq_true hkey⟩
      have hperm := h.perm.filter (fun a => decide (SortKey.ofCard field (card a) = k))
      rw [hnone] at hperm ⊢
      exact hperm.eq_nil
  · intro h
    refine ⟨h.perm, h.ordered, fun a _ => ?_⟩
    rw [filter_level_eq, filter_level_eq]
    exact h.stable _

theorem isStableSortBy_iff_eq_sortByKey {items sorted : List α} :
    IsStableSortBy (fun a b => (card a).compareBy field descending (card b)) items sorted ↔
      sorted = sortByKey (fun a => SortKey.ofCard field (card a)) descending items := by
  rw [isStableSortBy_iff]
  constructor
  · intro h
    exact h.unique (isStableSort_sortByKey _ _ _)
  · intro h
    rw [h]
    exact isStableSort_sortByKey _ _ _

theorem pairwise_band_sortByKey (items : List α) :
    (sortByKey (fun a => SortKey.ofCard field (card a)) false items).Pairwise fun a b =>
      ((card a).find field).band ≤ ((card b).find field).band := by
  refine (isStableSort_sortByKey _ _ _).ordered.imp fun hle => ?_
  rw [← SortKey.rank_ofFound, ← SortKey.rank_ofFound]
  exact SortKey.rank_le_of_isLE (Ordering.ne_gt_iff_isLE.1 hle)

end Items

/-- Keys are in a total order. Sorting items by a field of their cards is the one stable
sort by the comparison of cards, in both directions, and what core's sort makes of that
comparison. Ascending, the bands of values follow each other. -/
theorem sorts_by_field_stably {α : Type} (card : α → Card) (field : List Char) (items : List α) :
    (∀ a b : SortKey, (a.compare b).isLE = true ∨ (b.compare a).isLE = true) ∧
    (∀ a b c : SortKey, (a.compare b).isLE = true → (b.compare c).isLE = true →
      (a.compare c).isLE = true) ∧
    (∀ descending sorted,
      IsStableSortBy (fun a b => (card a).compareBy field descending (card b)) items sorted ↔
        sorted = sortByKey (fun a => SortKey.ofCard field (card a)) descending items) ∧
    (∀ descending, sortByKey (fun a => SortKey.ofCard field (card a)) descending items =
      items.mergeSort fun a b => (card a).compareBy field descending (card b) != .gt) ∧
    (sortByKey (fun a => SortKey.ofCard field (card a)) false items).Pairwise fun a b =>
      ((card a).find field).band ≤ ((card b).find field).band := by
  refine ⟨SortKey.isLE_total, fun a b c hab hbc => ?_, fun descending sorted => ?_,
    fun descending => ?_, pairwise_band_sortByKey card field items⟩
  · exact Std.TransCmp.isLE_trans hab hbc
  · exact isStableSortBy_iff_eq_sortByKey card field descending
  · exact sortByKey_eq _ descending items

/-- Cards with a number, nothing, a text, the same number and `true`. -/
def mixedCard : Nat → Card
  | 0 | 3 => ⟨[("x", .number (.int 7))]⟩
  | 2 => ⟨[("x", .string "b")]⟩
  | 4 => ⟨[("x", .bool true)]⟩
  | _ => ⟨[]⟩

/-- Turned round, the cards with one number stay as they stood. -/
theorem sorts_by_field_stably_descending :
    (SortKey.lowest.compare (.text "b")).isLE = true ∧
    [4, 2, 0, 3, 1] =
      sortByKey (fun n => SortKey.ofCard "x".toList (mixedCard n)) true [0, 1, 2, 3, 4] := by
  have hsorts := sorts_by_field_stably mixedCard "x".toList [0, 1, 2, 3, 4]
  refine ⟨hsorts.2.1 .lowest (.number 7) (.text "b") rfl rfl, (hsorts.2.2.1 true _).1 ?_⟩
  exact ⟨by decide, by decide +kernel, by decide +kernel⟩

end Search

end CardSearch
