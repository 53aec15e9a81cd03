import CardSearch.Proofs.Selections

/-!
# The order of the store

A row is a card and its position, and a search looks at positions in two places
only: the first row of each note is kept, and a shuffle goes by positions. Apart
from these a search is one on cards (`map_card_matching`, `map_card_results`),
which counts, filters and sorts, and nothing of that depends on how the store is
ordered but the order of cards that are level in the sort.
-/

namespace CardSearch

theorem Row.map_card_ofCards (cards : List Card) : (ofCards cards).map (·.card) = cards := by
  rw [ofCards, List.map_map]
  exact List.zipIdx_map_fst 0 cards

/-! ## Duplicates among cards -/

/-- Whether the front of a card is that of more than one of the cards. -/
def Card.isDuplicateIn (cards : List Card) (c : Card) : Bool :=
  (c.string? "front").any fun front => 1 < (cards.filterMap (·.string? "front")).count front

theorem Card.isDuplicateIn_congr {cards cards' : List Card} (h : cards.Perm cards') :
    isDuplicateIn cards = isDuplicateIn cards' := by
  funext c
  unfold isDuplicateIn
  simp only [(h.filterMap _).count_eq]

/-- The cards that a selection leaves, if it does not go by positions. -/
def Card.candidates (selection : Option Selection) (cards : List Card) : List Card :=
  if selection = none then cards else cards.filter (isDuplicateIn cards)

theorem Card.candidates_perm {cards cards' : List Card} (h : cards.Perm cards')
    (selection : Option Selection) :
    (candidates selection cards).Perm (candidates selection cards') := by
  unfold candidates
  split
  · exact h
  · rw [isDuplicateIn_congr h]
    exact h.filter _

theorem Selection.map_card_candidates {selection : Option Selection}
    (h : selection ≠ some .distinct) (rows : List Row) :
    (candidates selection rows).map (·.card) =
      Card.candidates selection (rows.map (·.card)) := by
  match selection with
  | none => rfl
  | some .distinct => exact absurd rfl h
  | some .duplicate =>
      have hfronts : rows.filterMap (·.front?) =
          (rows.map (·.card)).filterMap (·.string? "front") := by
        rw [List.filterMap_map]
        rfl
      show (duplicates rows).map (·.card) =
        (rows.map (·.card)).filter (Card.isDuplicateIn (rows.map (·.card)))
      rw [duplicates, hfronts, List.filter_map]
      rfl

/-- Cards that are not level in a sort have different keys. -/
theorem SortKey.ne_of_compareBy_ne_eq {field : List Char} {a b : Card}
    (h : a.compareBy field false b ≠ .eq) : ofCard field a ≠ ofCard field b := by
  intro heq
  refine h ?_
  show (ofCard field a).compare (ofCard field b) = .eq
  rw [heq]
  exact Std.ReflCmp.compare_self

namespace Search

section Cards

variable {cards cards' : List Card} {q : Query} (hselection : q.selection ≠ some .distinct)

include hselection

theorem map_card_matching (cards : List Card) :
    (matching cards q).map (·.card) =
      (Card.candidates q.selection cards).filter q.condition.holds := by
  have hcards := Selection.map_card_candidates hselection (Row.ofCards cards)
  rw [Row.map_card_ofCards] at hcards
  rw [matching_eq, ← hcards, List.filter_map]
  rfl

theorem map_card_matching_perm (hcards : cards.Perm cards') :
    ((matching cards q).map (·.card)).Perm ((matching cards' q).map (·.card)) := by
  rw [map_card_matching hselection, map_card_matching hselection]
  exact (Card.candidates_perm hcards q.selection).filter _

end Cards

theorem map_card_results {q : Query} {o : Options} (h : sortField q o ≠ randomOrder)
    (rank : Nat → Nat) (cards : List Card) :
    (results rank cards q o).map (·.card) =
      sortByKey (SortKey.ofCard (sortField q o).toList) (isDescending q o)
        ((matching cards q).map (·.card)) := by
  unfold results arrange
  rw [if_neg h, sortByKey_eq, sortByKey_eq]
  exact List.map_mergeSort fun _ _ _ _ => rfl

theorem map_card_window (offset : Nat) (limit : Option Nat) {rows rows' : List Row}
    (h : rows.map (·.card) = rows'.map (·.card)) :
    (window offset limit rows).map (·.card) = (window offset limit rows').map (·.card) := by
  have hlength : rows.length = rows'.length := by simpa using congrArg List.length h
  rw [window_eq_take_drop, window_eq_take_drop, List.map_take, List.map_take, List.map_drop,
    List.map_drop, h, hlength]

/-- The order of the store decides on no more than the order of cards that are level. -/
theorem store_order_breaks_ties_only {cards cards' : List Card} (hcards : cards.Perm cards')
    {q : Query} (hselection : q.selection ≠ some .distinct) (o : Options) (rank rank' : Nat → Nat) :
    (execute rank cards q o).count = (execute rank' cards' q o).count ∧
    (sortField q o ≠ randomOrder →
      ((matching cards q).map (·.card)).Pairwise (fun a b =>
        a.compareBy (sortField q o).toList false b ≠ .eq) →
      ∀ offset limit,
        (execute rank cards q { o with offset, limit }).cards =
          (execute rank' cards' q { o with offset, limit }).cards) := by
  have hperm := map_card_matching_perm hselection hcards
  have hfound (rank : Nat → Nat) (cards : List Card) :
      ((results rank cards q o).map (·.card)).Perm ((matching cards q).map (·.card)) :=
    (results_perm rank cards q o).map _
  have hresults := ((hfound rank cards).trans hperm).trans (hfound rank' cards').symm
  refine ⟨?_, fun hfield hdifferent offset limit => ?_⟩
  · have hlength := hresults.length_eq
    rwa [List.length_map, List.length_map] at hlength
  · have hordered (rank : Nat → Nat) (cards : List Card) :
        ((results rank cards q o).map (·.card)).Pairwise fun a b =>
          a.compareBy (sortField q o).toList (isDescending q o) b ≠ .gt := by
      rw [map_card_results hfield]
      exact (isStableSort_sortByKey _ _ _).ordered
    have hkeys : (((results rank cards q o).map (·.card)).map
        (SortKey.ofCard (sortField q o).toList)).Nodup := by
      refine ((hfound rank cards).map _).nodup_iff.2 (List.pairwise_map.2 ?_)
      exact hdifferent.imp SortKey.ne_of_compareBy_ne_eq
    exact map_card_window offset limit
      (eq_of_perm_of_ordered _ _ hkeys hresults (hordered rank cards) (hordered rank' cards'))

theorem store_order_breaks_ties_only_two_decks :
    [Card.mk [("deck", .string "b")], Card.mk [("deck", .string "a")]].Perm
      [Card.mk [("deck", .string "a")], Card.mk [("deck", .string "b")]] ∧
    (execute id [⟨[("deck", .string "b")]⟩, ⟨[("deck", .string "a")]⟩]
        { condition := .all [] } { limit := some 1 }).cards =
      (execute id [⟨[("deck", .string "a")]⟩, ⟨[("deck", .string "b")]⟩]
        { condition := .all [] } { limit := some 1 }).cards := by
  have hcards := List.Perm.swap (Card.mk [("deck", .string "a")]) ⟨[("deck", .string "b")]⟩ []
  obtain ⟨-, hresults⟩ := store_order_breaks_ties_only hcards
    (q := { condition := .all [] }) (by decide) { limit := some 1 } id id
  exact ⟨hcards, hresults (by decide) (by decide) 0 (some 1)⟩

end Search

end CardSearch
