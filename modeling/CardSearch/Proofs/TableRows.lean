import CardSearch.Proofs.PageWindows

/-!
# The rows of a table

A table gives each card a row of cells of fixed widths, whatever the card holds: a
text that is too long is cut and any other is filled, and both are counted in
characters (`isRow_cardLine`). Whether the row is one line is another matter. JSON
stands on one line always, and of a text in a column the first line alone is shown;
but the identifier, the items of a list and a next review that is no instant are
shown as they are, so a line break among the characters that are shown breaks the
row. `BreaksLine` says when, and a table has a line for each card and three more
exactly if it happens to none of them (`isLines_pageTable_iff`).
-/

namespace CardSearch

open Number (decimal digits not_mem_digits not_mem_decimal not_mem_padded)

/-! ## JSON on one line -/

namespace Number.Double

theorem newline_not_mem_positional {ds : List Char} (h : '\n' ∉ ds) (point : Int) :
    '\n' ∉ positional ds point := by
  have hzeros : ∀ n, '\n' ∉ List.replicate n '0' := by
    intro n hmem
    cases List.eq_of_mem_replicate hmem
  unfold positional
  dsimp only
  split
  · exact List.not_mem_append (by simp [hzeros]) h
  · split
    · exact List.not_mem_append (List.not_mem_append h (hzeros _)) (by decide)
    · have htake : '\n' ∉ ds.take point.toNat := fun hmem => h (List.mem_of_mem_take hmem)
      have hdrop : '\n' ∉ ds.drop point.toNat := fun hmem => h (List.mem_of_mem_drop hmem)
      simp [htake, hdrop]

theorem newline_not_mem_scientific {ds : List Char} (h : '\n' ∉ ds) (point : Int) :
    '\n' ∉ scientific ds point := by
  have htake : '\n' ∉ ds.take 1 := fun hmem => h (List.mem_of_mem_take hmem)
  have hdrop : '\n' ∉ ds.drop 1 := fun hmem => h (List.mem_of_mem_drop hmem)
  have hfraction : '\n' ∉ if ds.length ≤ 1 then [] else '.' :: ds.drop 1 := by
    split
    · exact List.not_mem_nil
    · exact List.not_mem_cons_of_ne_of_not_mem (by decide) hdrop
  have hsign : ∀ e : Int, '\n' ≠ if e < 0 then '-' else '+' := by
    intro e
    split <;> decide
  have hpower : ∀ n, '\n' ∉ digits n := not_mem_digits rfl
  unfold scientific
  dsimp only
  refine List.not_mem_append (List.not_mem_append htake hfraction) ?_
  exact List.not_mem_cons_of_ne_of_not_mem (by decide)
    (List.not_mem_cons_of_ne_of_not_mem (hsign _) (hpower _))

theorem newline_not_mem_text (x : Double) : '\n' ∉ x.text := by
  have hsign : '\n' ∉ if x.negative then ['-'] else [] := by split <;> decide
  have hdigits : '\n' ∉ digits x.shortest.digits := not_mem_digits rfl _
  unfold text
  dsimp only
  split
  · exact List.not_mem_append hsign (by decide)
  · refine List.not_mem_append hsign ?_
    split
    · exact newline_not_mem_positional hdigits _
    · exact newline_not_mem_scientific hdigits _

end Number.Double

namespace Json

theorem newline_ne_hexDigit : ∀ n < 16, '\n' ≠ hexDigit n := by decide

theorem newline_not_mem_escapeChar (c : Char) : '\n' ∉ escapeChar c := by
  unfold escapeChar
  split
  · decide
  · decide
  · decide
  · decide
  · decide
  · decide
  · decide
  · next hline _ _ =>
    split
    · next hcode =>
      have hhigh := newline_ne_hexDigit (c.toNat / 16) (by omega)
      have hlow := newline_ne_hexDigit (c.toNat % 16) (by omega)
      simp [hhigh, hlow]
    · intro hmem
      exact hline (List.mem_singleton.1 hmem).symm

theorem newline_not_mem_quote (s : String) : '\n' ∉ quote s := by
  have hchars : '\n' ∉ s.toList.flatMap escapeChar := by
    intro hmem
    obtain ⟨c, -, hc⟩ := List.mem_flatMap.1 hmem
    exact newline_not_mem_escapeChar c hc
  simp [quote, hchars]

theorem newline_not_mem_scalarText (v : Json) : '\n' ∉ v.scalarText := by
  unfold scalarText
  split
  · decide
  · decide
  · next n =>
    cases n with
    | int n => exact not_mem_decimal (by decide) rfl n
    | float x => exact x.newline_not_mem_text
  · exact newline_not_mem_quote _
  · decide

mutual

theorem newline_not_mem_compact : ∀ v : Json, '\n' ∉ v.compact
  | .array items => by
    have hitems := newline_not_mem_compactItems items
    simp [compact, hitems]
  | .object fields => by
    have hfields := newline_not_mem_compactFields fields
    simp [compact, hfields]
  | .null | .bool _ | .number _ | .string _ => by
    rw [compact]
    · exact newline_not_mem_scalarText _
    · nofun
    · nofun

theorem newline_not_mem_compactItems : ∀ items : List Json, '\n' ∉ compactItems items
  | [] => List.not_mem_nil
  | [v] => newline_not_mem_compact v
  | v :: w :: rest => by
    have hv := newline_not_mem_compact v
    have hrest := newline_not_mem_compactItems (w :: rest)
    simp [compactItems, hv, hrest]

theorem newline_not_mem_compactFields :
    ∀ fields : List (String × Json), '\n' ∉ compactFields fields
  | [] => List.not_mem_nil
  | [(k, v)] => by
    have hk := newline_not_mem_quote k
    have hv := newline_not_mem_compact v
    simp [compactFields, hk, hv]
  | (k, v) :: f :: rest => by
    have hk := newline_not_mem_quote k
    have hv := newline_not_mem_compact v
    have hrest := newline_not_mem_compactFields (f :: rest)
    simp [compactFields, hk, hv, hrest]

end

end Json

namespace Report

open Search (Page Options)
open Text (ellipsize padRight ofLines IsLines)
open Time (Instant)

/-! ## Cells -/

/-- A text in a cell: filled up to the width or cut, with three points at the end. -/
structure IsCell (width : Nat) (s cell : List Char) : Prop where
  length_eq : cell.length = width
  filled : s.length ≤ width → ∃ n, cell = s ++ List.replicate n ' '
  cut : width < s.length → cell = s.take (width - 3) ++ ['.', '.', '.']

theorem isCell_padRight {width : Nat} (h : 3 ≤ width) (s : List Char) :
    IsCell width s (padRight width (ellipsize s width)) := by
  have hlen := Text.length_ellipsize_le (s := s) h
  refine ⟨?_, fun hshort => ?_, fun hlong => ?_⟩
  · rw [Text.length_padRight]
    omega
  · rw [ellipsize, if_neg (by omega)]
    exact ⟨width - s.length, rfl⟩
  · have hfull : width - (s.take (width - 3) ++ ['.', '.', '.']).length = 0 := by
      simp only [List.length_append, List.length_take, List.length_cons, List.length_nil]
      omega
    rw [ellipsize, if_pos hlong, padRight, hfull]
    simp

/-- What a cell shows of a text. -/
def shownPart (width : Nat) (s : List Char) : List Char :=
  if width < s.length then s.take (width - 3) else s

theorem mem_of_mem_shownPart {width : Nat} {s : List Char} {c : Char} (h : c ∈ shownPart width s) :
    c ∈ s := by
  unfold shownPart at h
  split at h
  · exact List.mem_of_mem_take h
  · exact h

theorem newline_mem_padRight_iff (width : Nat) (s : List Char) :
    '\n' ∈ padRight width (ellipsize s width) ↔ '\n' ∈ shownPart width s := by
  unfold padRight ellipsize shownPart
  split <;> simp

/-! ## What breaks a row -/

/-- The items of a list as a column shows them. -/
def joined (items : List Json) : List Char := [',', ' '].intercalate (items.map plainText)

/-- The columns that may show a list, with their widths. -/
def listColumns : List (String × Nat) := [("deck", 16), ("front", 30), ("tag", 20)]

/-- A line break among the characters that are shown of an identifier, of the items of a list or of
a next review that is no instant. -/
inductive BreaksLine (now : Instant) (c : Card) : Prop
  | id {s : String} (hid : (c.get? "id").or (c.get? "_id") = some (.string s))
      (hshown : '\n' ∈ shownPart 8 s.toList)
  | item {field : String} {width : Nat} {items : List Json} {s : String}
      (hfield : (field, width) ∈ listColumns) (hlist : c.get? field = some (.array items))
      (hitem : .string s ∈ items) (hbreak : '\n' ∈ s.toList)
      (hshown : '\n' ∈ shownPart width (joined items))
  | review {s : String} (hreview : c.string? "nextReview" = some s)
      (hunclear : Instant.ofString? s = none) (hbreak : '\n' ∈ s.toList)

theorem newline_mem_plainText {v : Json} (h : '\n' ∈ plainText v) :
    ∃ s, v = .string s ∧ '\n' ∈ s.toList := by
  unfold plainText at h
  split at h
  · next s => exact ⟨s, rfl, h⟩
  · exact absurd h (Json.newline_not_mem_compact _)

theorem newline_mem_intercalate {parts : List (List Char)}
    (h : '\n' ∈ [',', ' '].intercalate parts) : ∃ part ∈ parts, '\n' ∈ part := by
  induction parts with
  | nil => cases h
  | cons part rest ih =>
      cases rest with
      | nil =>
          rw [List.intercalate_singleton] at h
          exact ⟨part, List.mem_cons_self, h⟩
      | cons next rest =>
          rw [List.intercalate_cons_cons, List.mem_append, List.mem_append] at h
          rcases h with (hpart | hmark) | hrest
          · exact ⟨part, List.mem_cons_self, hpart⟩
          · exact absurd hmark (by decide)
          · obtain ⟨found, hfound, hbreak⟩ := ih hrest
            exact ⟨found, List.mem_cons_of_mem part hfound, hbreak⟩

theorem newline_mem_joined {items : List Json} (h : '\n' ∈ joined items) :
    ∃ s, .string s ∈ items ∧ '\n' ∈ s.toList := by
  obtain ⟨part, hpart, hbreak⟩ := newline_mem_intercalate h
  obtain ⟨v, hv, rfl⟩ := List.mem_map.1 hpart
  obtain ⟨s, rfl, hs⟩ := newline_mem_plainText hbreak
  exact ⟨s, hv, hs⟩

theorem newline_mem_idText_iff {c : Card} {width : Nat} :
    '\n' ∈ shownPart width (idText c) ↔
      ∃ s, (c.get? "id").or (c.get? "_id") = some (.string s) ∧
        '\n' ∈ shownPart width s.toList := by
  unfold idText
  constructor
  · intro h
    have hmem := mem_of_mem_shownPart h
    cases hid : (c.get? "id").or (c.get? "_id") with
    | none =>
        rw [hid] at hmem
        cases hmem
    | some v =>
        rw [hid] at h hmem
        obtain ⟨s, rfl, -⟩ := newline_mem_plainText hmem
        exact ⟨s, rfl, h⟩
  · intro ⟨s, hid, hshown⟩
    rw [hid]
    exact hshown

/-- A column with a line break shows a list that has the break in one of its items. -/
theorem newline_mem_columnText_iff {c : Card} {field : String} {width : Nat} :
    '\n' ∈ shownPart width (columnText c field) ↔
      ∃ items s, c.get? field = some (.array items) ∧ .string s ∈ items ∧ '\n' ∈ s.toList ∧
        '\n' ∈ shownPart width (joined items) := by
  unfold columnText
  constructor
  · intro h
    have hmem := mem_of_mem_shownPart h
    unfold fieldText at h hmem
    split at hmem
    · cases hmem
    · exact absurd hmem (Text.not_mem_firstLine _)
    · next items hitems =>
      rw [hitems] at h
      obtain ⟨s, hs, hbreak⟩ := newline_mem_joined hmem
      exact ⟨items, s, hitems, hs, hbreak, h⟩
    · exact absurd hmem (Json.newline_not_mem_compact _)
  · intro ⟨items, s, hlist, _, _, hshown⟩
    rw [hlist]
    exact hshown

theorem newline_not_mem_dateText (d : Time.Date) : '\n' ∉ d.text := by
  have hpadded : ∀ width n, '\n' ∉ Number.padded width n := not_mem_padded rfl
  have hyear : '\n' ∉ Time.yearText d.year := by
    unfold Time.yearText
    split
    · exact hpadded _ _
    · have hsign : '\n' ≠ if d.year < 0 then '-' else '+' := by split <;> decide
      exact List.not_mem_cons_of_ne_of_not_mem hsign (hpadded _ _)
  simp [Time.Date.text, hyear, hpadded]

theorem newline_mem_label {l : ReviewLabel} (h : '\n' ∈ l.text) :
    ∃ s, l = .unclear s ∧ '\n' ∈ s := by
  have hdecimal : ∀ n, '\n' ∉ decimal n := not_mem_decimal (by decide) rfl
  unfold ReviewLabel.text at h
  split at h
  · exact absurd h (by decide)
  · next s => exact ⟨s, rfl, h⟩
  · exact absurd h (by decide)
  · exact absurd h (by decide)
  · simp [hdecimal] at h
  · simp [hdecimal] at h
  · simp [hdecimal] at h
  · simp [hdecimal] at h
  · exact absurd h (newline_not_mem_dateText _)

theorem ofInstant_ne_unclear (now t : Instant) (s : List Char) :
    ReviewLabel.ofInstant now t ≠ .unclear s := by
  unfold ReviewLabel.ofInstant
  repeat' split
  all_goals nofun

theorem newline_mem_review_iff (now : Instant) (review : Option String) :
    '\n' ∈ (ReviewLabel.ofText now review).text ↔
      ∃ s, review = some s ∧ Instant.ofString? s = none ∧ '\n' ∈ s.toList := by
  constructor
  · intro h
    obtain ⟨raw, hraw, hbreak⟩ := newline_mem_label h
    unfold ReviewLabel.ofText at hraw
    split at hraw
    · cases hraw
    · next s =>
      split at hraw
      · next hnone =>
        cases hraw
        exact ⟨s, rfl, hnone, hbreak⟩
      · exact absurd hraw (ofInstant_ne_unclear _ _ _)
  · intro ⟨s, hs, hnone, hbreak⟩
    rw [hs, ReviewLabel.ofText, hnone]
    exact hbreak

/-! ## Rows -/

/-- A row: the cells of a card, a space after each, and its next review. -/
def IsRow (now : Instant) (c : Card) (row : List Char) : Prop :=
  ∃ id deck front tags,
    IsCell 8 (idText c) id ∧ IsCell 16 (columnText c "deck") deck ∧
      IsCell 30 (columnText c "front") front ∧ IsCell 20 (columnText c "tag") tags ∧
      row = id ++ ' ' :: (deck ++ ' ' :: (front ++ ' ' :: (tags ++ ' ' ::
        (ReviewLabel.ofText now (c.string? "nextReview")).text)))

theorem cardLine_eq (now : Instant) (c : Card) :
    cardLine false now c =
      padRight 8 (ellipsize (idText c) 8) ++ ' ' ::
        (padRight 16 (ellipsize (columnText c "deck") 16) ++ ' ' ::
          (padRight 30 (ellipsize (columnText c "front") 30) ++ ' ' ::
            (padRight 20 (ellipsize (columnText c "tag") 20) ++ ' ' ::
              (ReviewLabel.ofText now (c.string? "nextReview")).text))) := by
  simp only [cardLine, columns, Column.cell, List.flatMap_cons, List.flatMap_nil,
    ReviewLabel.shown_false, List.append_assoc, List.cons_append, List.nil_append]

theorem isRow_cardLine (now : Instant) (c : Card) : IsRow now c (cardLine false now c) :=
  ⟨_, _, _, _, isCell_padRight (by decide) _, isCell_padRight (by decide) _,
    isCell_padRight (by decide) _, isCell_padRight (by decide) _, cardLine_eq now c⟩

theorem newline_mem_cardLine_iff (now : Instant) (c : Card) :
    '\n' ∈ cardLine false now c ↔ BreaksLine now c := by
  have hspace : '\n' ≠ ' ' := by decide
  simp only [cardLine_eq, List.mem_append, List.mem_cons, hspace, false_or,
    newline_mem_padRight_iff, newline_mem_idText_iff, newline_mem_columnText_iff,
    newline_mem_review_iff]
  constructor
  · intro h
    rcases h with ⟨s, hid, hshown⟩ | hdeck | hfront | htags | ⟨s, hreview, hunclear, hbreak⟩
    · exact .id hid hshown
    · obtain ⟨items, s, hlist, hitem, hbreak, hshown⟩ := hdeck
      exact .item (by decide) hlist hitem hbreak hshown
    · obtain ⟨items, s, hlist, hitem, hbreak, hshown⟩ := hfront
      exact .item (by decide) hlist hitem hbreak hshown
    · obtain ⟨items, s, hlist, hitem, hbreak, hshown⟩ := htags
      exact .item (by decide) hlist hitem hbreak hshown
    · exact .review hreview hunclear hbreak
  · intro h
    cases h with
    | id hid hshown => exact Or.inl ⟨_, hid, hshown⟩
    | item hfield hlist hitem hbreak hshown =>
        simp only [listColumns, List.mem_cons, Prod.mk.injEq, List.not_mem_nil, or_false] at hfield
        rcases hfield with ⟨rfl, rfl⟩ | ⟨rfl, rfl⟩ | ⟨rfl, rfl⟩
        · exact Or.inr (Or.inl ⟨_, _, hlist, hitem, hbreak, hshown⟩)
        · exact Or.inr (Or.inr (Or.inl ⟨_, _, hlist, hitem, hbreak, hshown⟩))
        · exact Or.inr (Or.inr (Or.inr (Or.inl ⟨_, _, hlist, hitem, hbreak, hshown⟩)))
    | review hreview hunclear hbreak =>
        exact Or.inr (Or.inr (Or.inr (Or.inr ⟨_, hreview, hunclear, hbreak⟩)))

section

variable {p : Page} (now : Instant) (o : Options) (hrows : p.rows ≠ [])

include hrows

theorem pageTable_eq :
    pageTable false now p o =
      ofLines (header :: p.cards.map (cardLine false now) ++ [[], footer p o]) :=
  pageTable_of_rows false now o hrows

/-- A table has a line for each card and three more unless a row is broken. -/
theorem isLines_pageTable_iff :
    IsLines (p.rows.length + 3) (pageTable false now p o) ↔ ∀ c ∈ p.cards, ¬ BreaksLine now c := by
  have hlength : (header :: p.cards.map (cardLine false now) ++ [[], footer p o]).length =
      p.rows.length + 3 := by
    simp [Page.cards]
  have hheader : '\n' ∉ header := by decide
  have hfooter := newline_not_mem_footer p o
  rw [pageTable_eq now o hrows, ← hlength, Text.isLines_ofLines_iff]
  constructor
  · intro h c hc hbreaks
    have hline : cardLine false now c ∈
        header :: p.cards.map (cardLine false now) ++ [[], footer p o] :=
      List.mem_append_left _ (List.mem_cons_of_mem _ (List.mem_map_of_mem hc))
    exact h _ hline ((newline_mem_cardLine_iff now c).2 hbreaks)
  · intro h line hline
    simp only [List.mem_append, List.mem_cons, List.mem_map, List.not_mem_nil, or_false] at hline
    rcases hline with (rfl | ⟨c, hc, rfl⟩) | rfl | rfl
    · exact hheader
    · exact fun hbreak => h c hc ((newline_mem_cardLine_iff now c).1 hbreak)
    · exact List.not_mem_nil
    · exact hfooter

/-- A table shows the cards of its page in order between the header and an empty line with the
footer after it, each in a row of cells of the widths of their columns, and that is a line for each
of them unless a card shows a line break. -/
theorem table_gives_each_card_a_row :
    (∃ rows, List.Forall₂ (IsRow now) p.cards rows ∧
        pageTable false now p o = ofLines (header :: rows ++ [[], footer p o])) ∧
      (IsLines (p.rows.length + 3) (pageTable false now p o) ↔
        ∀ c ∈ p.cards, ¬ BreaksLine now c) := by
  refine ⟨⟨p.cards.map (cardLine false now), ?_, pageTable_eq now o hrows⟩,
    isLines_pageTable_iff now o hrows⟩
  rw [List.forall₂_map_right_iff, List.forall₂_same]
  intro c _
  exact isRow_cardLine now c

end

/-- A page of one card. -/
def pageOfOne (front : String) (tags : List String) : Page :=
  ⟨[⟨0, ⟨[("deck", .string "d"), ("front", .string front), ("id", .string "c1"),
    ("tag", .array (tags.map .string))]⟩⟩], 1⟩

/-- Of a front of two lines the first is shown. -/
theorem table_gives_each_card_a_row_two_lines :
    IsLines 4 (pageTable false (.ofSeconds 0) (pageOfOne "a\nb" ["vocab", "n5"]) {}) := by
  refine (table_gives_each_card_a_row (.ofSeconds 0) {} (p := pageOfOne "a\nb" ["vocab", "n5"])
    nofun).2.2 ?_
  intro c hc hbreaks
  obtain rfl := List.mem_singleton.1 hc
  cases hbreaks with
  | id hid hshown =>
      obtain rfl : "c1" = _ := Json.string.inj (Option.some.inj hid)
      exact absurd hshown (by decide)
  | item hfield hlist hitem hbreak hshown =>
      simp only [listColumns, List.mem_cons, Prod.mk.injEq, List.not_mem_nil, or_false] at hfield
      rcases hfield with ⟨rfl, rfl⟩ | ⟨rfl, rfl⟩ | ⟨rfl, rfl⟩
      · cases Option.some.inj hlist
      · cases Option.some.inj hlist
      · obtain rfl := Json.array.inj (Option.some.inj hlist)
        exact absurd hshown (by decide)
  | review hreview hunclear hbreak => cases hreview

/-- An item of a list of tags is shown with its line break. -/
theorem tag_breaks_row :
    ¬ IsLines ((pageOfOne "f" ["a\nb"]).rows.length + 3)
      (pageTable false (.ofSeconds 0) (pageOfOne "f" ["a\nb"]) {}) := by
  intro h
  refine (isLines_pageTable_iff (.ofSeconds 0) {} (p := pageOfOne "f" ["a\nb"]) nofun).1 h _
    List.mem_cons_self ?_
  exact .item (by decide : ("tag", 20) ∈ listColumns) rfl List.mem_cons_self (by decide) (by decide)

end Report

end CardSearch
