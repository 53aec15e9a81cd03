import CardSearch.Proofs.Paging
import CardSearch.Proofs.Selections
import CardSearch.Proofs.TextLines
import CardSearch.Report.Table

/-!
# What a page tells about its window

A page reports where it stands by sums of its offset and its length, and both the
offset and the limit may be as great as a word can be. The sums stay words all the
same, and for one reason: a page that has rows ends within the results
(`offset_add_length_le`), so that its sums are bounded by the count, and a page
without rows adds nothing to the offset.

The same fact makes the report true. A page says that there is more exactly if the
results go on behind it, and of the four things that a table can say the one it
says tells whether there are results at all, whether some of them are on the page,
and whether all of them are.
-/

namespace CardSearch

open Number (digits not_mem_digits wordSize)
open Text (ofLines HasLastLine)
open Time (Instant)

namespace Search

/-! ## Windows -/

section

variable {offset : Nat} {limit : Option Nat} {rows : List Row}

theorem length_window_le : (window offset limit rows).length ≤ rows.length - offset := by
  rw [← List.length_drop, window_eq_take_drop]
  exact List.length_take_le' _ _

/-- A window that shows something ends within the rows. -/
theorem offset_add_length_le (h : window offset limit rows ≠ []) :
    offset + (window offset limit rows).length ≤ rows.length := by
  have hpos := List.length_pos_iff.2 h
  have hle : (window offset limit rows).length ≤ rows.length - offset := length_window_le
  omega

/-- A window that is not empty is all of the rows if it begins and ends with them. -/
theorem window_eq_self_iff (h : window offset limit rows ≠ []) :
    window offset limit rows = rows ↔
      offset = 0 ∧ offset + (window offset limit rows).length = rows.length := by
  have hle := offset_add_length_le h
  constructor
  · intro heq
    have hlen := congrArg List.length heq
    omega
  · rintro ⟨hoffset, hlen⟩
    refine (window_sublist offset limit rows).eq_of_length ?_
    omega

theorem window_none_ne_nil_iff : window offset none rows ≠ [] ↔ offset < rows.length := by
  show rows.drop offset ≠ [] ↔ _
  rw [ne_eq, List.drop_eq_nil_iff, Nat.not_le]

end

theorem length_results_le (rank : Nat → Nat) (cards : List Card) (q : Query) (o : Options) :
    (results rank cards q o).length ≤ cards.length := by
  have hcandidates := (Selection.candidates_sublist q.selection (Row.ofCards cards)).length_le
  have hrows : (Row.ofCards cards).length = cards.length := by
    rw [Row.ofCards, List.length_map, List.length_zipIdx]
  rw [length_results]
  exact Nat.le_trans List.countP_le_length (hrows ▸ hcandidates)

end Search

namespace Report

open Search (Page Options)

/-! ## What a table can say -/

/-- That nothing is found. -/
def nothingFound : List Char := "No cards found.".toList

/-- That what is found is not on the page. -/
def nothingHere (count offset : Nat) : List Char :=
  "No cards on this page (".toList ++ digits count ++ " matches, offset ".toList ++
    digits offset ++ ").".toList

/-- The total alone. -/
def totalLine (count : Nat) : List Char :=
  if count = 1 then "1 card".toList else digits count ++ " cards".toList

/-- The window and the total. -/
def windowLine (first last count : Nat) : List Char :=
  "Showing ".toList ++ digits first ++ '-' :: digits last ++ " of ".toList ++ digits count ++
    " cards".toList

theorem emptyLine_eq (p : Page) (o : Options) :
    emptyLine p o = if p.count = 0 then nothingFound else nothingHere p.count o.offset := rfl

theorem footer_eq (p : Page) (o : Options) :
    footer p o =
      if o.offset + 1 = 1 ∧ o.offset + p.rows.length = p.count then totalLine p.count
      else windowLine (o.offset + 1) (o.offset + p.rows.length) p.count := rfl

/-! ### No two of them are the same -/

theorem newline_not_mem_totalLine (count : Nat) : '\n' ∉ totalLine count := by
  unfold totalLine
  split
  · decide
  · exact List.not_mem_append (not_mem_digits rfl count) (by decide)

theorem newline_not_mem_windowLine (first last count : Nat) :
    '\n' ∉ windowLine first last count := by
  have hdigits := not_mem_digits (c := '\n') rfl
  unfold windowLine
  simp only [List.mem_append, List.mem_cons, hdigits, not_or, or_false]
  decide

theorem newline_not_mem_footer (p : Page) (o : Options) : '\n' ∉ footer p o := by
  rw [footer_eq]
  split
  · exact newline_not_mem_totalLine _
  · exact newline_not_mem_windowLine _ _ _

theorem newline_not_mem_nothingHere (count offset : Nat) : '\n' ∉ nothingHere count offset := by
  have hdigits := not_mem_digits (c := '\n') rfl
  unfold nothingHere
  simp only [List.mem_append, hdigits, not_or, or_false]
  decide

theorem newline_not_mem_paint {s : List Char} (h : '\n' ∉ s) (styled : Bool) (style : Style) :
    '\n' ∉ paint styled style s := by
  cases styled with
  | false => exact h
  | true =>
      have hcodes : '\n' ∉ control style.onCode ∧ '\n' ∉ control style.offCode := by
        cases style <;> decide
      exact List.not_mem_append (List.not_mem_append hcodes.1 h) hcodes.2

theorem paint_injective {styled : Bool} {style : Style} {s t : List Char}
    (h : paint styled style s = paint styled style t) : s = t := by
  cases styled with
  | false => exact h
  | true => exact List.append_cancel_left (List.append_cancel_right h)

theorem head_totalLine (count : Nat) : ∀ c ∈ (totalLine count).head?, c.isDigit = true := by
  intro c hc
  unfold totalLine at hc
  split at hc
  · obtain rfl : '1' = c := Option.some.inj hc
    rfl
  · have hne : digits count ≠ [] := Nat.toDigits_ne_nil
    rw [List.head?_append_of_ne_nil _ hne] at hc
    exact Number.isDigit_of_mem_digits (List.mem_of_mem_head? hc)

theorem totalLine_ne_windowLine (n first last count : Nat) :
    totalLine n ≠ windowLine first last count := by
  intro h
  have hdigit := head_totalLine n 'S' (h ▸ rfl)
  cases hdigit

theorem nothingFound_ne_nothingHere (count offset : Nat) :
    nothingFound ≠ nothingHere count offset := by
  intro h
  have hchar : some 'f' = some 'o' := congrArg (·[9]?) h
  cases hchar

theorem head_emptyLine (p : Page) (o : Options) : (emptyLine p o).head? = some 'N' := by
  rw [emptyLine_eq]
  split
  · rfl
  · rfl

theorem head_totalLine_ne (count : Nat) : (totalLine count).head? ≠ some 'N' := by
  intro h
  have hdigit := head_totalLine count 'N' h
  cases hdigit

theorem head_paint_ne {line : List Char} (h : line.head? ≠ some 'N') (styled : Bool) :
    (paint styled .dimmed line).head? ≠ some 'N' := by
  cases styled with
  | false => exact h
  | true => exact nofun

theorem head_paint_footer (styled : Bool) (p : Page) (o : Options) :
    (paint styled .dimmed (footer p o)).head? ≠ some 'N' := by
  refine head_paint_ne ?_ styled
  rw [footer_eq]
  split
  · exact head_totalLine_ne p.count
  · exact nofun

/-! ## The last line of a table -/

/-- The line of a page without cards, or the one under its cards. -/
def lastLine (styled : Bool) (p : Page) (o : Options) : List Char :=
  if p.rows = [] then emptyLine p o else paint styled .dimmed (footer p o)

section

variable {p : Page} (styled : Bool) (now : Instant) (o : Options)

theorem pageTable_of_empty (h : p.rows = []) :
    pageTable styled now p o = ofLines [emptyLine p o] := by
  rw [pageTable, tableLines, h]
  rfl

theorem pageTable_of_rows (h : p.rows ≠ []) :
    pageTable styled now p o =
      ofLines (paint styled .dimmed header :: p.cards.map (cardLine styled now) ++
        [[], paint styled .dimmed (footer p o)]) := by
  rw [pageTable, tableLines, List.isEmpty_eq_false_iff.2 h]
  rfl

theorem newline_not_mem_lastLine : '\n' ∉ lastLine styled p o := by
  unfold lastLine
  split
  · rw [emptyLine_eq]
    split
    · decide
    · exact newline_not_mem_nothingHere _ _
  · exact newline_not_mem_paint (newline_not_mem_footer p o) styled .dimmed

theorem hasLastLine_pageTable : HasLastLine (pageTable styled now p o) (lastLine styled p o) := by
  unfold lastLine
  split
  · next hempty => exact ⟨[], pageTable_of_empty styled now o hempty⟩
  · next hrows =>
      refine ⟨paint styled .dimmed header :: p.cards.map (cardLine styled now) ++ [[]], ?_⟩
      rw [pageTable_of_rows styled now o hrows, List.append_assoc]
      rfl

theorem hasLastLine_iff {line : List Char} (hline : '\n' ∉ line) :
    HasLastLine (pageTable styled now p o) line ↔ line = lastLine styled p o := by
  have hlast : HasLastLine (pageTable styled now p o) (lastLine styled p o) :=
    hasLastLine_pageTable styled now o
  constructor
  · intro h
    exact h.unique hlast hline (newline_not_mem_lastLine styled o)
  · intro h
    rwa [h]

/-- The line of a page without cards is never said of one with cards. -/
theorem pageTable_eq_line_iff {line : List Char} (hline : '\n' ∉ line)
    (hhead : line.head? = some 'N') :
    pageTable styled now p o = ofLines [line] ↔ p.rows = [] ∧ line = emptyLine p o := by
  constructor
  · intro h
    have heq : line = lastLine styled p o := (hasLastLine_iff styled now o hline).1 ⟨[], h⟩
    unfold lastLine at heq
    split at heq
    · next hempty => exact ⟨hempty, heq⟩
    · rw [heq] at hhead
      exact absurd hhead (head_paint_footer styled p o)
  · rintro ⟨hempty, rfl⟩
    exact pageTable_of_empty styled now o hempty

/-- The line under the cards is never said of a page without cards. -/
theorem hasLastLine_paint_iff {line : List Char} (hline : '\n' ∉ line)
    (hhead : line.head? ≠ some 'N') :
    HasLastLine (pageTable styled now p o) (paint styled .dimmed line) ↔
      p.rows ≠ [] ∧ line = footer p o := by
  rw [hasLastLine_iff styled now o (newline_not_mem_paint hline styled .dimmed), lastLine]
  split
  · next hempty =>
      refine iff_of_false (fun heq => ?_) fun h => h.1 hempty
      exact head_paint_ne hhead styled (heq ▸ head_emptyLine p o)
  · next hrows =>
      constructor
      · intro heq
        exact ⟨hrows, paint_injective heq⟩
      · intro h
        rw [h.2]

end

/-! ## Pages of a search -/

/-- What the table of a page says about its window: there are `found` rows in all. -/
structure TellsWindow (table : List Char) (styled : Bool) (p : Page) (o : Options)
    (found : List Row) : Prop where
  nothing_iff : table = ofLines [nothingFound] ↔ p.count = 0
  nothingHere_iff :
    table = ofLines [nothingHere p.count o.offset] ↔ 0 < p.count ∧ p.rows = []
  total_iff :
    HasLastLine table (paint styled .dimmed (totalLine p.count)) ↔ 0 < p.count ∧ p.rows = found
  window_iff :
    (∃ first last, HasLastLine table (paint styled .dimmed (windowLine first last p.count)) ∧
        first = o.offset + 1 ∧ first ≤ last ∧ last ≤ p.count ∧
        last - first + 1 = p.rows.length) ↔
      p.rows ≠ [] ∧ p.rows ≠ found

/-- A page that is cut out of the rows found. -/
def pageOf (o : Options) (found : List Row) : Page :=
  ⟨Search.window o.offset o.limit found, found.length⟩

theorem begins_and_ends_iff {o : Options} {found : List Row} (h : (pageOf o found).rows ≠ []) :
    (o.offset + 1 = 1 ∧ o.offset + (pageOf o found).rows.length = (pageOf o found).count) ↔
      (pageOf o found).rows = found := by
  rw [Nat.add_eq_right]
  exact (Search.window_eq_self_iff h).symm

theorem footer_of_all {o : Options} {found : List Row} (h : (pageOf o found).rows ≠ [])
    (hall : (pageOf o found).rows = found) :
    footer (pageOf o found) o = totalLine (pageOf o found).count := by
  rw [footer_eq, if_pos ((begins_and_ends_iff h).2 hall)]

theorem footer_of_part {o : Options} {found : List Row} (h : (pageOf o found).rows ≠ [])
    (hpart : (pageOf o found).rows ≠ found) :
    footer (pageOf o found) o =
      windowLine (o.offset + 1) (o.offset + (pageOf o found).rows.length)
        (pageOf o found).count := by
  rw [footer_eq, if_neg fun hboth => hpart ((begins_and_ends_iff h).1 hboth)]

theorem tellsWindow_pageOf (styled : Bool) (now : Instant) (o : Options) (found : List Row) :
    TellsWindow (pageTable styled now (pageOf o found) o) styled (pageOf o found) o found := by
  have hpos : (pageOf o found).rows ≠ [] → 0 < (pageOf o found).count := by
    intro h
    have hend := Search.offset_add_length_le h
    have hlen := List.length_pos_iff.2 h
    exact Nat.lt_of_lt_of_le hlen (Nat.le_trans (Nat.le_add_left _ _) hend)
  have hempty : (pageOf o found).count = 0 → (pageOf o found).rows = [] := by
    intro hcount
    by_contra h
    exact absurd hcount (Nat.pos_iff_ne_zero.1 (hpos h))
  constructor
  case nothing_iff =>
    rw [pageTable_eq_line_iff styled now o (by decide) rfl, emptyLine_eq]
    constructor
    · rintro ⟨-, hline⟩
      by_contra hcount
      rw [if_neg hcount] at hline
      exact nothingFound_ne_nothingHere _ _ hline
    · intro hcount
      rw [if_pos hcount]
      exact ⟨hempty hcount, rfl⟩
  case nothingHere_iff =>
    rw [pageTable_eq_line_iff styled now o (newline_not_mem_nothingHere _ _) rfl, emptyLine_eq]
    constructor
    · rintro ⟨hrows, hline⟩
      refine ⟨Nat.pos_of_ne_zero fun hcount => ?_, hrows⟩
      rw [if_pos hcount] at hline
      exact nothingFound_ne_nothingHere _ _ hline.symm
    · rintro ⟨hcount, hrows⟩
      rw [if_neg (Nat.pos_iff_ne_zero.1 hcount)]
      exact ⟨hrows, rfl⟩
  case total_iff =>
    rw [hasLastLine_paint_iff styled now o (newline_not_mem_totalLine _) (head_totalLine_ne _)]
    constructor
    · rintro ⟨hrows, hline⟩
      refine ⟨hpos hrows, ?_⟩
      by_contra hpart
      rw [footer_of_part hrows hpart] at hline
      exact totalLine_ne_windowLine _ _ _ _ hline
    · rintro ⟨hcount, hall⟩
      have hrows : (pageOf o found).rows ≠ [] := by
        rw [hall]
        exact List.length_pos_iff.1 hcount
      exact ⟨hrows, (footer_of_all hrows hall).symm⟩
  case window_iff =>
    have htells : ∀ first last,
        HasLastLine (pageTable styled now (pageOf o found) o)
            (paint styled .dimmed (windowLine first last (pageOf o found).count)) ↔
          (pageOf o found).rows ≠ [] ∧
            windowLine first last (pageOf o found).count = footer (pageOf o found) o :=
      fun first last =>
        hasLastLine_paint_iff styled now o (newline_not_mem_windowLine _ _ _) nofun
    constructor
    · rintro ⟨first, last, hline, -⟩
      obtain ⟨hrows, hline⟩ := (htells first last).1 hline
      refine ⟨hrows, fun hall => ?_⟩
      rw [footer_of_all hrows hall] at hline
      exact totalLine_ne_windowLine _ _ _ _ hline.symm
    · rintro ⟨hrows, hpart⟩
      have hend := Search.offset_add_length_le hrows
      have hlen := List.length_pos_iff.2 hrows
      refine ⟨o.offset + 1, o.offset + (pageOf o found).rows.length,
        (htells _ _).2 ⟨hrows, (footer_of_part hrows hpart).symm⟩, rfl, ?_, hend, ?_⟩
      · omega
      · omega

end Report

namespace Search

/-- The numbers that a page reports are words whatever offset and limit are asked for, it
says that there is more when there is, and its table tells its window. -/
theorem page_tells_window (rank : Nat → Nat) {cards : List Card} (q : Query) {o : Options}
    (hcards : cards.length < wordSize) (hoffset : o.offset < wordSize) :
    let page := execute rank cards q o
    (o.offset + page.rows.length < wordSize ∧ (page.rows ≠ [] → o.offset + 1 < wordSize)) ∧
      (∀ rank', page.hasMore o = true ↔
        (execute rank' cards q
          { o with offset := o.offset + page.rows.length, limit := none }).rows ≠ []) ∧
      ∀ styled now, Report.TellsWindow (Report.pageTable styled now page o) styled page o
        (execute rank cards q { o with offset := 0, limit := none }).rows := by
  intro page
  have hcount : (results rank cards q o).length ≤ cards.length := length_results_le rank cards q o
  have hend : page.rows ≠ [] → o.offset + page.rows.length ≤ (results rank cards q o).length :=
    offset_add_length_le
  refine ⟨?_, fun rank' => ?_, fun styled now => ?_⟩
  · by_cases hrows : page.rows = []
    · rw [hrows]
      exact ⟨hoffset, fun h => absurd rfl h⟩
    · have hsum := hend hrows
      have hlen := List.length_pos_iff.2 hrows
      exact ⟨by omega, fun _ => by omega⟩
  · have hlen : (results rank' cards q o).length = (results rank cards q o).length := by
      rw [length_results, length_results]
    have hrest : (execute rank' cards q
        { o with offset := o.offset + page.rows.length, limit := none }).rows ≠ [] ↔
          o.offset + page.rows.length < (results rank' cards q o).length :=
      window_none_ne_nil_iff
    rw [hrest, hlen, Page.hasMore, decide_eq_true_eq]
    exact Iff.rfl
  · exact Report.tellsWindow_pageOf styled now o (results rank cards q o)

/-- A page of one card in the middle of three, and one of no cards at the last offset. -/
theorem page_tells_window_middle_and_bound :
    let cards : List Card :=
      [⟨[("deck", .string "a")]⟩, ⟨[("deck", .string "b")]⟩, ⟨[("deck", .string "c")]⟩]
    let q : Query := { condition := .all [] }
    cards.length < wordSize ∧
    (let o : Options := { offset := 1, limit := some 1 }
      let page := execute id cards q o
      o.offset < wordSize ∧ page.hasMore o = true ∧
        HasLastLine (Report.pageTable false (.ofSeconds 0) page o)
          "Showing 2-2 of 3 cards".toList) ∧
    (let o : Options := { offset := wordSize - 1, limit := some 0 }
      let page := execute id cards q o
      o.offset < wordSize ∧ o.offset + page.rows.length < wordSize ∧
        Report.pageTable true (.ofSeconds 0) page o =
          ofLines ["No cards on this page (3 matches, offset 18446744073709551615).".toList]) := by
  intro cards q
  have hcards : cards.length < wordSize := by decide
  have hsorted : sortByKey (fun r => SortKey.ofCard "deck".toList r.card) false
      (matching cards q) = Row.ofCards cards := by
    rw [sortByKey, List.mergeSort_of_pairwise]
    · rfl
    · decide
  refine ⟨hcards, ?_, ?_⟩
  · intro o page
    have hoffset : o.offset < wordSize := by decide
    obtain ⟨-, hmore, htable⟩ := page_tells_window id q hcards hoffset
    have hrows : page.rows = [⟨1, ⟨[("deck", .string "b")]⟩⟩] :=
      congrArg (window 1 (some 1)) hsorted
    have hall : (execute id cards q { o with offset := 0, limit := none }).rows =
        Row.ofCards cards := hsorted
    have hrest : (execute id cards q
        { o with offset := o.offset + page.rows.length, limit := none }).rows =
          window (1 + page.rows.length) none (Row.ofCards cards) :=
      congrArg (window (1 + page.rows.length) none) hsorted
    have hcount : page.count = 3 := congrArg List.length hsorted
    obtain ⟨first, last, hline, hfirst, hle, -, hlen⟩ :=
      (htable false (.ofSeconds 0)).window_iff.2 (by
        show page.rows ≠ [] ∧ page.rows ≠ _
        rw [hall, hrows]
        exact ⟨List.cons_ne_nil _ _, fun h => absurd (congrArg List.length h) (by decide)⟩)
    obtain rfl : first = 2 := hfirst
    obtain rfl : last = 2 := by
      have hone : last - 2 + 1 = page.rows.length := hlen
      rw [hrows, List.length_singleton] at hone
      omega
    have hwords : Report.windowLine 2 2 3 = "Showing 2-2 of 3 cards".toList := by decide
    refine ⟨hoffset, (hmore id).2 ?_, ?_⟩
    · rw [hrest, hrows]
      exact List.cons_ne_nil _ _
    · rw [← hwords, ← hcount]
      exact hline
  · intro o page
    have hoffset : o.offset < wordSize := by decide
    obtain ⟨⟨hsum, -⟩, -, htable⟩ := page_tells_window id q hcards hoffset
    have hcount : page.count = 3 := congrArg List.length hsorted
    have hwords : Report.nothingHere 3 (wordSize - 1) =
        "No cards on this page (3 matches, offset 18446744073709551615).".toList := by
      decide +kernel
    refine ⟨hoffset, hsum, ?_⟩
    rw [← hwords, ← hcount]
    exact (htable true (.ofSeconds 0)).nothingHere_iff.2 ⟨hcount ▸ Nat.zero_lt_succ 2, rfl⟩

end Search

end CardSearch
