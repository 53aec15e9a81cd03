import CardSearch.Search.Basic
import Mathlib.Data.List.Nodup

/-!
# Sorting by a key

Keys are compared by their kind first, then by the number and then by the text
in them, of which a key has at most one (`compare_eq_lex`). The order is total
therefore, and keys that are level in it are the same key. That is all that
`List.mergeSort` asks for: sorting in either direction moves items about, leaves
none out of order and keeps items with equal keys as they stood
(`isStableSort_sortByKey`).

A shuffle sorts by ranks of positions. Every order of the rows is the shuffle
for some ranks (`exists_shuffle_eq`).
-/

namespace CardSearch

namespace SortKey

/-! ## The order of keys -/

/-- The number in a key. -/
def amount : SortKey → Int
  | number n => n
  | _ => 0

/-- The text in a key. -/
def letters : SortKey → String
  | text s => s
  | _ => ""

theorem compare_eq_lex :
    compare = compareLex (compareOn rank) (compareLex (compareOn amount) (compareOn letters)) := by
  funext a b
  have hnumber (n m : Int) : Ord.compare n m = (Ord.compare n m).then .eq :=
    Ordering.then_eq.symm
  cases a <;> cases b <;> first | rfl | exact hnumber _ _

instance : Std.TransCmp compare := by
  rw [compare_eq_lex]
  infer_instance

instance : Std.LawfulEqCmp compare where
  compare_self := Std.ReflCmp.compare_self
  eq_of_compare {a b} h := by
    rw [compare_eq_lex] at h
    simp only [compareLex, Ordering.then_eq_eq, compareOn, Std.LawfulEqCmp.compare_eq_iff_eq] at h
    obtain ⟨hrank, hamount, hletters⟩ := h
    cases a <;> cases b <;> first
      | rfl
      | exact congrArg number hamount
      | exact congrArg text hletters
      | cases hrank

theorem compareIn_true (a b : SortKey) : a.compareIn true b = b.compare a :=
  Std.OrientedCmp.eq_swap.symm

instance (descending : Bool) : Std.TransCmp (compareIn descending) := by
  cases descending with
  | false => exact inferInstanceAs (Std.TransCmp compare)
  | true =>
      have hflip : compareIn true = fun a b => b.compare a := by
        funext a b
        exact compareIn_true a b
      rw [hflip]
      exact Std.TransCmp.opposite

instance (descending : Bool) : Std.LawfulEqCmp (compareIn descending) where
  compare_self := Std.ReflCmp.compare_self
  eq_of_compare {a b} h := by
    cases descending with
    | false =>
        have hlevel : compare a b = .eq := h
        exact Std.LawfulEqCmp.eq_of_compare hlevel
    | true =>
        rw [compareIn_true] at h
        exact (Std.LawfulEqCmp.eq_of_compare h).symm

/-- Keys of which neither comes after the other are the same. -/
theorem eq_of_compareIn_ne_gt {descending : Bool} {a b : SortKey}
    (hab : a.compareIn descending b ≠ .gt) (hba : b.compareIn descending a ≠ .gt) : a = b := by
  have hswap : b.compareIn descending a = (a.compareIn descending b).swap :=
    Std.OrientedCmp.eq_swap
  rw [hswap] at hba
  cases h : a.compareIn descending b with
  | eq => exact Std.LawfulEqCmp.eq_of_compare h
  | gt => exact absurd h hab
  | lt => exact absurd (congrArg Ordering.swap h) hba

end SortKey

namespace Search

/-! ## Sorting -/

/-- The items in order of their keys, those with equal keys as they stood. -/
structure IsStableSort {α : Type} (key : α → SortKey) (descending : Bool)
    (items sorted : List α) : Prop where
  perm : sorted.Perm items
  ordered : sorted.Pairwise fun a b => (key a).compareIn descending (key b) ≠ .gt
  stable : ∀ k, sorted.filter (key · = k) = items.filter (key · = k)

section SortByKey

variable {α : Type} (key : α → SortKey) (descending : Bool)

/-- Whether an item may stand before another. -/
def mayPrecede (a b : α) : Bool := (key a).compareIn descending (key b) != .gt

theorem mayPrecede_eq_isLE (a b : α) :
    mayPrecede key descending a b = ((key a).compareIn descending (key b)).isLE := by
  unfold mayPrecede
  cases (key a).compareIn descending (key b) <;> rfl

theorem mayPrecede_trans (a b c : α) (hab : mayPrecede key descending a b = true)
    (hbc : mayPrecede key descending b c = true) : mayPrecede key descending a c = true := by
  rw [mayPrecede_eq_isLE] at *
  exact Std.TransCmp.isLE_trans hab hbc

theorem mayPrecede_total (a b : α) :
    (mayPrecede key descending a b || mayPrecede key descending b a) = true := by
  have hswap : (key b).compareIn descending (key a) =
      ((key a).compareIn descending (key b)).swap := Std.OrientedCmp.eq_swap
  rw [mayPrecede_eq_isLE, mayPrecede_eq_isLE, hswap]
  cases (key a).compareIn descending (key b) <;> rfl

/-- That the keys are made beforehand does not show. -/
theorem sortByKey_eq (items : List α) :
    sortByKey key descending items = items.mergeSort (mayPrecede key descending) := by
  have hmap := List.map_mergeSort (f := fun a => (key a, a)) (l := items)
    (r := mayPrecede key descending)
    (s := fun a b => a.1.compareIn descending b.1 != .gt) fun _ _ _ _ => rfl
  show List.map (·.2) (List.mergeSort (items.map fun a => (key a, a)) _) = _
  rw [← hmap, List.map_map]
  exact List.map_id _

theorem isStableSort_sortByKey (items : List α) :
    IsStableSort key descending items (sortByKey key descending items) := by
  rw [sortByKey_eq]
  have hperm := List.mergeSort_perm items (mayPrecede key descending)
  refine ⟨hperm, ?_, fun k => ?_⟩
  · have hordered := List.pairwise_mergeSort (mayPrecede_trans key descending)
      (mayPrecede_total key descending) items
    exact hordered.imp fun hle => bne_iff_ne.1 hle
  · -- Items with one key are in order as they stand, so sorting finds them a sublist already.
    have hlevel : (items.filter (key · = k)).Pairwise fun a b =>
        mayPrecede key descending a b = true := by
      refine List.pairwise_of_forall_mem_list fun a ha b hb => ?_
      have hkey : key a = key b :=
        (of_decide_eq_true (List.mem_filter.1 ha).2).trans
          (of_decide_eq_true (List.mem_filter.1 hb).2).symm
      have hself : (key b).compareIn descending (key b) = .eq := Std.ReflCmp.compare_self
      rw [mayPrecede_eq_isLE, hkey, hself]
      rfl
    have hsub : (items.filter (key · = k)).Sublist (items.mergeSort (mayPrecede key descending)) :=
      List.sublist_mergeSort (mayPrecede_trans key descending) (mayPrecede_total key descending)
        hlevel List.filter_sublist
    have hfilter := hsub.filter (key · = k)
    rw [List.filter_filter] at hfilter
    simp only [Bool.and_self] at hfilter
    exact (hfilter.eq_of_length (hperm.filter _).length_eq.symm).symm

/-- Items with different keys have one order only. -/
theorem eq_of_perm_of_ordered {items items' : List α} (hdifferent : (items.map key).Nodup)
    (hperm : items.Perm items')
    (hordered : items.Pairwise fun a b => (key a).compareIn descending (key b) ≠ .gt)
    (hordered' : items'.Pairwise fun a b => (key a).compareIn descending (key b) ≠ .gt) :
    items = items' := by
  refine List.Perm.eq_of_pairwise (fun a b ha hb hab hba => ?_) hordered hordered' hperm
  exact List.inj_on_of_nodup_map hdifferent ha (hperm.mem_iff.2 hb)
    (SortKey.eq_of_compareIn_ne_gt hab hba)

variable {key descending}

theorem filter_key_cons_of_eq {a : α} {k : SortKey} (h : key a = k) (rest : List α) :
    (a :: rest).filter (key · = k) = a :: rest.filter (key · = k) :=
  List.filter_cons_of_pos (decide_eq_true h)

theorem filter_key_cons_of_ne {a : α} {k : SortKey} (h : key a ≠ k) (rest : List α) :
    (a :: rest).filter (key · = k) = rest.filter (key · = k) :=
  List.filter_cons_of_neg fun ha => h (of_decide_eq_true ha)

/-- There is one stable sort of a list: the first items of two have the least key, and of
the items with that key they are the first in the list. -/
theorem IsStableSort.unique {items sorted sorted' : List α}
    (h : IsStableSort key descending items sorted)
    (h' : IsStableSort key descending items sorted') : sorted = sorted' := by
  have hperm : sorted.Perm sorted' := h.perm.trans h'.perm.symm
  have hstable (k : SortKey) : sorted.filter (key · = k) = sorted'.filter (key · = k) :=
    (h.stable k).trans (h'.stable k).symm
  have hordered := h.ordered
  have hordered' := h'.ordered
  clear h h'
  induction sorted generalizing sorted' with
  | nil => exact hperm.nil_eq
  | cons a rest ih =>
      cases sorted' with
      | nil => exact absurd hperm.eq_nil (List.cons_ne_nil a rest)
      | cons b rest' =>
          have hkey : key a = key b := by
            rcases List.mem_cons.1 (hperm.mem_iff.1 List.mem_cons_self) with hab | ha
            · rw [hab]
            rcases List.mem_cons.1 (hperm.mem_iff.2 List.mem_cons_self) with hba | hb
            · rw [hba]
            exact SortKey.eq_of_compareIn_ne_gt ((List.pairwise_cons.1 hordered).1 b hb)
              ((List.pairwise_cons.1 hordered').1 a ha)
          obtain rfl : a = b := by
            have hfirst := hstable (key a)
            rw [filter_key_cons_of_eq rfl, filter_key_cons_of_eq hkey.symm] at hfirst
            exact (List.cons.inj hfirst).1
          have hrest (k : SortKey) : rest.filter (key · = k) = rest'.filter (key · = k) := by
            have hk := hstable k
            by_cases hak : key a = k
            · rw [filter_key_cons_of_eq hak, filter_key_cons_of_eq hak] at hk
              exact (List.cons.inj hk).2
            · rwa [filter_key_cons_of_ne hak, filter_key_cons_of_ne hak] at hk
          rw [ih hperm.cons_inv hrest (List.pairwise_cons.1 hordered).2
            (List.pairwise_cons.1 hordered').2]

end SortByKey

/-! ## Results -/

theorem shuffle_perm (rank : Nat → Nat) (rows : List Row) : (shuffle rank rows).Perm rows :=
  List.mergeSort_perm rows _

/-- In whatever order, the results are the rows that were found. -/
theorem results_perm (rank : Nat → Nat) (cards : List Card) (q : Query) (o : Options) :
    (results rank cards q o).Perm (matching cards q) := by
  unfold results arrange
  split
  · exact shuffle_perm rank _
  · exact (isStableSort_sortByKey _ _ _).perm

/-- A shuffle may come to any order of the rows. -/
theorem exists_shuffle_eq {rows found : List Row} (hpositions : (rows.map (·.position)).Nodup)
    (hperm : found.Perm rows) : ∃ rank, shuffle rank rows = found := by
  have hfound : (found.map (·.position)).Nodup := (hperm.map _).nodup_iff.2 hpositions
  -- The rank of a position is its place in the order that is wanted.
  let rank (i : Nat) : Nat := (found.map (·.position)).idxOf i
  refine ⟨rank, ?_⟩
  have hwanted : found.Pairwise fun a b => rank a.position ≤ rank b.position := by
    refine List.pairwise_iff_getElem.2 fun i j hi hj hij => ?_
    have hrank (k : Nat) (hk : k < found.length) : rank found[k].position = k := by
      have hget := hfound.idxOf_getElem k (by rwa [List.length_map])
      rwa [List.getElem_map] at hget
    rw [hrank i hi, hrank j hj]
    exact Nat.le_of_lt hij
  have hshuffled : (shuffle rank rows).Pairwise fun a b =>
      rank a.position ≤ rank b.position := by
    let le (a b : Row) : Bool := rank a.position ≤ rank b.position
    have htrans (a b c : Row) (hab : le a b = true) (hbc : le b c = true) : le a c = true :=
      decide_eq_true (Nat.le_trans (of_decide_eq_true hab) (of_decide_eq_true hbc))
    have htotal (a b : Row) : (le a b || le b a) = true := by
      simpa [le] using Nat.le_total (rank a.position) (rank b.position)
    exact (List.pairwise_mergeSort htrans htotal rows).imp of_decide_eq_true
  refine List.Perm.eq_of_pairwise (fun a b ha hb hab hba => ?_) hshuffled hwanted
    ((shuffle_perm rank rows).trans hperm.symm)
  have hmem : a ∈ found := hperm.mem_iff.2 ((shuffle_perm rank rows).mem_iff.1 ha)
  have hplace : a.position = b.position :=
    (List.idxOf_inj (List.mem_map_of_mem hmem)).1 (Nat.le_antisymm hab hba)
  exact List.inj_on_of_nodup_map hfound hmem hb hplace

end Search

end CardSearch
