import CardSearch.Report.Page
import Mathlib.Logic.Function.Iterate

/-!
# Reading the results page by page

A client asks for pages of a fixed size, one after the other, and stops at the
first page that says there is no more. Nothing but the offset ties its calls
together: every call sorts again, and a shuffled order would be a new one each
time. For any other order the calls cut their pages out of one and the same list
(`results_eq_of_ne_random`), so what the client holds is always a first part of
that list, `Client.HasRead`, and it grows by a row at least as long as there are
rows left (`Client.left_step_le`). That is all that is needed.

No offset exceeds the count, nor does an offset together with the length of its
page, so in numbers of bounded size the sum that `Page.hasMore` takes is exact.
-/

namespace CardSearch.Search

/-! ## What a call gives -/

theorem results_eq_of_ne_random {q : Query} {o : Options} (h : sortField q o ≠ randomOrder)
    (rank rank' : Nat → Nat) (cards : List Card) :
    results rank cards q o = results rank' cards q o := by
  unfold results arrange
  rw [if_neg h, if_neg h]

theorem length_sortByKey {α : Type} (key : α → SortKey) (descending : Bool) (items : List α) :
    (sortByKey key descending items).length = items.length := by
  unfold sortByKey
  rw [List.length_map, List.length_mergeSort, List.length_map]

theorem length_results (rank : Nat → Nat) (cards : List Card) (q : Query) (o : Options) :
    (results rank cards q o).length =
      (Selection.candidates q.selection (Row.ofCards cards)).countP
        fun r => (Matcher.ofCondition q.condition).isMatch r.card := by
  have hmatching : (results rank cards q o).length = (matching cards q).length := by
    unfold results arrange
    split
    · rw [shuffle, List.length_mergeSort]
    · rw [length_sortByKey]
  rw [hmatching, matching, ← List.countP_eq_length_filter]

/-! ## The client -/

/-- A client on its way through the pages, and when it has stopped. -/
inductive Client where
  | asking (offset : Nat) (pages : List Page)
  | done (pages : List Page)

namespace Client

/-- The client before its first call. -/
def start : Client := .asking 0 []

/-- One call. The shuffle may be another one each time. -/
def step (ranks : Nat → Nat → Nat) (cards : List Card) (q : Query) (o : Options) (limit : Nat) :
    Client → Client
  | asking offset pages =>
    let options := { o with offset, limit := some limit }
    let page := execute (ranks pages.length) cards q options
    if page.hasMore options then asking (offset + page.rows.length) (pages ++ [page])
    else done (pages ++ [page])
  | done pages => done pages

/-- Pages of the right size and count that hold some rows in order. -/
def Cover (limit count : Nat) (rows : List Row) (pages : List Page) : Prop :=
  (∀ p ∈ pages, p.rows.length ≤ limit ∧ p.count = count) ∧ pages.flatMap (·.rows) = rows

/-- What the client holds: the rows before its offset, and all rows in the end. -/
def HasRead (limit : Nat) (found : List Row) : Client → Prop
  | asking offset pages =>
    offset ≤ found.length ∧ Cover limit found.length (found.take offset) pages
  | done pages => Cover limit found.length found pages

/-- How many calls there can be left. -/
def left (found : List Row) : Client → Nat
  | asking offset _ => found.length - offset + 1
  | done _ => 0

section Calls

variable {ranks : Nat → Nat → Nat} {cards : List Card} {q : Query} {o : Options} {limit : Nat}
  {found : List Row} (hfound : ∀ rank, results rank cards q o = found)

include hfound

/-- A call cuts its page out of the one list, and says that there is more exactly
if the list goes on after it. -/
theorem step_asking (offset : Nat) (pages : List Page) :
    step ranks cards q o limit (.asking offset pages) =
      if offset + limit < found.length then
        .asking (offset + limit) (pages ++ [⟨(found.drop offset).take limit, found.length⟩])
      else .done (pages ++ [⟨(found.drop offset).take limit, found.length⟩]) := by
  have hpage : execute (ranks pages.length) cards q { o with offset, limit := some limit } =
      ⟨(found.drop offset).take limit, found.length⟩ := by
    have hresults : results (ranks pages.length) cards q { o with offset, limit := some limit } =
        found := hfound (ranks pages.length)
    rw [execute, hresults]
    rfl
  simp only [step, hpage, Page.hasMore, List.length_take, List.length_drop, decide_eq_true_eq]
  by_cases hmore : offset + limit < found.length
  · have hmin : min limit (found.length - offset) = limit := by omega
    rw [hmin, if_pos hmore]
  · have hlast : ¬ offset + min limit (found.length - offset) < found.length := by omega
    rw [if_neg hlast, if_neg hmore]

theorem hasRead_step {c : Client} (h : c.HasRead limit found) :
    (step ranks cards q o limit c).HasRead limit found := by
  cases c with
  | done pages => exact h
  | asking offset pages =>
      obtain ⟨-, hpages, hrows⟩ := h
      have hcover : Cover limit found.length (found.take (offset + limit))
          (pages ++ [⟨(found.drop offset).take limit, found.length⟩]) := by
        refine ⟨?_, ?_⟩
        · intro p hp
          rcases List.mem_append.1 hp with hp | hp
          · exact hpages p hp
          · obtain rfl := List.mem_singleton.1 hp
            exact ⟨List.length_take_le limit _, rfl⟩
        · rw [List.flatMap_append, hrows, List.take_add]
          simp
      rw [step_asking hfound]
      split
      · next hmore => exact ⟨Nat.le_of_lt hmore, hcover⟩
      · next hmore =>
          rw [List.take_of_length_le (Nat.not_lt.1 hmore)] at hcover
          exact hcover

theorem hasRead_iterate (n : Nat) :
    ((step ranks cards q o limit)^[n] start).HasRead limit found := by
  induction n with
  | zero => exact ⟨Nat.zero_le _, fun p hp => absurd hp (List.not_mem_nil), rfl⟩
  | succ n ih =>
      rw [Function.iterate_succ_apply']
      exact hasRead_step hfound ih

/-- Every call brings the client nearer to the end. -/
theorem left_step_le (hlimit : 0 < limit) (c : Client) :
    (step ranks cards q o limit c).left found ≤ c.left found - 1 := by
  cases c with
  | done pages => exact Nat.le_refl 0
  | asking offset pages =>
      rw [step_asking hfound]
      split
      · next hmore =>
          show found.length - (offset + limit) + 1 ≤ found.length - offset + 1 - 1
          omega
      · exact Nat.zero_le _

theorem left_iterate_le (hlimit : 0 < limit) (c : Client) (n : Nat) :
    ((step ranks cards q o limit)^[n] c).left found ≤ c.left found - n := by
  induction n with
  | zero => exact Nat.le_refl _
  | succ n ih =>
      rw [Function.iterate_succ_apply']
      refine Nat.le_trans (left_step_le hfound hlimit _) ?_
      omega

/-- After enough calls the client has stopped. -/
theorem exists_done (hlimit : 0 < limit) :
    ∃ n pages, (step ranks cards q o limit)^[n] start = .done pages := by
  refine ⟨start.left found, ?_⟩
  have hleft : ((step ranks cards q o limit)^[start.left found] start).left found ≤
      start.left found - start.left found := left_iterate_le hfound hlimit start _
  rw [Nat.sub_self] at hleft
  cases hc : (step ranks cards q o limit)^[start.left found] start with
  | asking offset pages =>
      rw [hc] at hleft
      exact absurd hleft (Nat.not_succ_le_zero _)
  | done pages => exact ⟨pages, rfl⟩

end Calls

end Client

/-- Reading page by page in any order but the random one comes to an end, loses
no row and gives none twice. -/
theorem pages_hold_results (ranks : Nat → Nat → Nat) (cards : List Card) {q : Query}
    {o : Options} {limit : Nat} (hlimit : 0 < limit) (hfield : sortField q o ≠ randomOrder) :
    ∃ n pages, (Client.step ranks cards q o limit)^[n] .start = .done pages ∧
      (∀ p ∈ pages, p.rows.length ≤ limit ∧
        p.count = (Selection.candidates q.selection (Row.ofCards cards)).countP
          fun r => (Matcher.ofCondition q.condition).isMatch r.card) ∧
      ∀ rank, pages.flatMap (·.rows) =
        (execute rank cards q { o with offset := 0, limit := none }).rows := by
  have hfound : ∀ rank, results rank cards q o = results (ranks 0) cards q o := fun rank =>
    results_eq_of_ne_random hfield rank (ranks 0) cards
  obtain ⟨n, pages, hdone⟩ :
      ∃ n pages, (Client.step ranks cards q o limit)^[n] .start = .done pages :=
    Client.exists_done hfound hlimit
  have hread : ((Client.step ranks cards q o limit)^[n] .start).HasRead limit
      (results (ranks 0) cards q o) := Client.hasRead_iterate hfound n
  rw [hdone] at hread
  obtain ⟨hpages, hrows⟩ := hread
  refine ⟨n, pages, hdone, ?_, fun rank => ?_⟩
  · intro p hp
    rw [← length_results (ranks 0)]
    exact hpages p hp
  · rw [hrows, ← hfound rank]
    rfl

theorem pages_hold_three_decks :
    sortField { condition := .all [] } {} ≠ randomOrder ∧
    ∃ n pages, (Client.step (fun _ i => i)
        [⟨[("deck", .string "a")]⟩, ⟨[("deck", .string "b")]⟩, ⟨[("deck", .string "c")]⟩]
        { condition := .all [] } {} 2)^[n] .start = .done pages ∧
      pages.flatMap (·.rows) = [⟨0, ⟨[("deck", .string "a")]⟩⟩,
        ⟨1, ⟨[("deck", .string "b")]⟩⟩, ⟨2, ⟨[("deck", .string "c")]⟩⟩] := by
  have hfield : sortField { condition := .all [] } {} ≠ randomOrder := by decide
  obtain ⟨n, pages, hdone, -, hrows⟩ := pages_hold_results (fun _ i => i)
    [⟨[("deck", .string "a")]⟩, ⟨[("deck", .string "b")]⟩, ⟨[("deck", .string "c")]⟩]
    Nat.zero_lt_two hfield
  refine ⟨hfield, n, pages, hdone, ?_⟩
  rw [hrows id]
  show (sortByKey _ _ _) = _
  rw [sortByKey, List.mergeSort_of_pairwise]
  · rfl
  · decide

end CardSearch.Search
