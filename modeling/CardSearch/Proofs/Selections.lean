import CardSearch.Proofs.Matchers
import CardSearch.Proofs.Sorting

/-!
# What the selections keep

Whether a row is kept depends on the rows at other positions: another row with
its front, or an earlier row of its note. The selections find this out by
counting fronts and by remembering notes; both come to the same as looking at
positions (`keeps_duplicates`, `keeps_distincts`), because every row has a
position of its own.

A selection also sets the order. The condition is looked at after it, so a page
is cut out of the kept rows that meet the condition: in the one stable order of
their fronts, or in any order at all.
-/

namespace CardSearch

namespace Row

/-! ## Positions -/

theorem position_ofCards (cards : List Card) :
    (ofCards cards).map (·.position) = List.range cards.length := by
  rw [ofCards, List.map_map, List.range_eq_range', ← List.zipIdx_map_snd 0 cards]
  rfl

theorem nodup_position_ofCards (cards : List Card) :
    ((ofCards cards).map (·.position)).Nodup := by
  rw [position_ofCards]
  exact List.nodup_range

theorem ascending_ofCards (cards : List Card) :
    (ofCards cards).Pairwise fun a b => a.position < b.position := by
  have hrange : ((ofCards cards).map (·.position)).Pairwise (· < ·) := by
    rw [position_ofCards]
    exact List.pairwise_lt_range
  exact List.pairwise_map.1 hrange

/-! ## Rows compared by position -/

/-- Whether the front is a text that a row at another position has too. -/
def SharesFront (rows : List Row) (r : Row) : Prop :=
  ∃ front, r.card.fields.lookup "front" = some (.string front) ∧
    ∃ other ∈ rows, other.position ≠ r.position ∧
      other.card.fields.lookup "front" = some (.string front)

/-- Whether a text tells the note of a row: it is its key, or its front if the
key is no text. -/
def IsOfNote (r : Row) (note : String) : Prop :=
  r.card.fields.lookup "key" = some (.string note) ∨
    (∀ key, r.card.fields.lookup "key" ≠ some (.string key)) ∧
      r.card.fields.lookup "front" = some (.string note)

/-- Whether no earlier row is of the same note; a row without a note is the first of its own. -/
def IsFirstOfNote (rows : List Row) (r : Row) : Prop :=
  ∀ note, r.IsOfNote note → ∀ other ∈ rows, other.position < r.position → ¬ other.IsOfNote note

theorem note?_eq_some_iff {r : Row} {note : String} :
    r.note? = some note ↔ r.IsOfNote note := by
  unfold note? front? IsOfNote
  rw [Option.or_eq_some_iff, Option.eq_none_iff_forall_ne_some, Card.string?_eq_some_iff,
    Card.string?_eq_some_iff]
  simp only [ne_eq, Card.string?_eq_some_iff]

end Row

namespace Selection

/-- The rows with a property, in the order of a list. -/
structure Keeps (p : Row → Prop) (rows kept : List Row) : Prop where
  sublist : kept.Sublist rows
  mem_iff : ∀ r, r ∈ kept ↔ r ∈ rows ∧ p r

/-! ## Duplicates -/

theorem one_lt_countP_iff {α : Type} {p : α → Bool} {l : List α} (hl : l.Nodup) {a : α}
    (ha : a ∈ l) (hp : p a = true) : 1 < l.countP p ↔ ∃ b ∈ l, b ≠ a ∧ p b = true := by
  obtain ⟨before, after, rfl⟩ := List.append_of_mem ha
  have hnot : a ∉ before ++ after := (List.nodup_middle.1 hl).notMem
  have hcount : (before ++ a :: after).countP p = (before ++ after).countP p + 1 := by
    rw [List.countP_append, List.countP_cons_of_pos hp, List.countP_append, Nat.add_assoc]
  rw [hcount, Nat.lt_add_left_iff_pos, List.countP_pos_iff]
  constructor
  · rintro ⟨b, hb, hpb⟩
    refine ⟨b, ?_, fun hba => hnot (hba ▸ hb), hpb⟩
    exact (List.Sublist.append (List.Sublist.refl before) (List.sublist_cons_self a after)).mem hb
  · rintro ⟨b, hb, hne, hpb⟩
    refine ⟨b, ?_, hpb⟩
    rcases List.mem_append.1 hb with hb | hb
    · exact List.mem_append_left _ hb
    · exact List.mem_append_right _ ((List.mem_cons.1 hb).resolve_left hne)

theorem mem_duplicates {rows : List Row} {r : Row} :
    r ∈ duplicates rows ↔ r ∈ rows ∧
      ∃ front, r.front? = some front ∧ 1 < rows.countP (·.front? == some front) := by
  unfold duplicates
  rw [List.mem_filter, Option.any_eq_true]
  simp only [decide_eq_true_eq, List.count_filterMap]

theorem keeps_duplicates (cards : List Card) :
    Keeps (Row.SharesFront (Row.ofCards cards)) (Row.ofCards cards)
      (duplicates (Row.ofCards cards)) where
  sublist := duplicates_sublist _
  mem_iff r := by
    have hpositions := Row.nodup_position_ofCards cards
    rw [mem_duplicates]
    refine and_congr_right fun hr => exists_congr fun front => ?_
    rw [Row.front?, Card.string?_eq_some_iff]
    refine and_congr_right fun hfront => ?_
    have hown : (r.front? == some front) = true :=
      beq_iff_eq.2 (Card.string?_eq_some_iff.2 hfront)
    rw [one_lt_countP_iff hpositions.of_map hr hown]
    refine exists_congr fun other => and_congr_right fun hother => ?_
    rw [beq_iff_eq, Row.front?, Card.string?_eq_some_iff]
    refine and_congr_left fun _ => ?_
    -- Rows are told apart by their positions.
    exact not_congr ⟨congrArg _, List.inj_on_of_nodup_map hpositions hother hr⟩

/-- All rows with a front are kept or none is, so a second look counts as many. -/
theorem duplicates_duplicates (rows : List Row) :
    duplicates (duplicates rows) = duplicates rows := by
  refine List.filter_eq_self.2 fun r hr => ?_
  obtain ⟨-, front, hfront, hcount⟩ := mem_duplicates.1 hr
  have hsame : (duplicates rows).countP (·.front? == some front) =
      rows.countP (·.front? == some front) := by
    rw [duplicates, List.countP_filter]
    refine List.countP_congr fun other hother => ?_
    rw [Bool.and_eq_true, and_iff_left_iff_imp, beq_iff_eq]
    intro hfront'
    exact (List.mem_filter.1 (mem_duplicates.2 ⟨hother, front, hfront', hcount⟩)).2
  rw [hfront, Option.any_some, List.count_filterMap, hsame]
  exact decide_eq_true hcount

/-! ## First rows of notes -/

/-- Whether the note of a row, if it has one, is not among those seen. -/
def isNew (seen : List String) (r : Row) : Bool := r.note?.all fun note => !seen.contains note

theorem isNew_iff {seen : List String} {r : Row} :
    isNew seen r = true ↔ ∀ note, r.note? = some note → note ∉ seen := by
  rw [isNew, Option.all_eq_true]
  refine forall_congr' fun note => imp_congr_right fun _ => ?_
  rw [Bool.not_eq_true', List.contains_eq_mem, decide_eq_false_iff_not]

theorem distinctFrom_congr {seen seen' : List String} (h : ∀ note, note ∈ seen ↔ note ∈ seen')
    (rows : List Row) : distinctFrom seen rows = distinctFrom seen' rows := by
  induction rows generalizing seen seen' with
  | nil => rfl
  | cons r rest ih =>
      rw [distinctFrom, distinctFrom]
      cases r.note? with
      | none => exact congrArg (r :: ·) (ih h)
      | some note =>
          have hcontains : seen.contains note = seen'.contains note := by
            rw [List.contains_eq_mem, List.contains_eq_mem]
            exact decide_eq_decide.2 (h note)
          have hmore : ∀ n, n ∈ note :: seen ↔ n ∈ note :: seen' := fun n => by
            rw [List.mem_cons, List.mem_cons, h]
          simp only [hcontains, ih h, ih hmore]

/-- A row is kept if its note is new, and its note has been seen from then on. -/
theorem distinctFrom_cons (seen : List String) (r : Row) (rest : List Row) :
    distinctFrom seen (r :: rest) =
      (if isNew seen r then [r] else []) ++ distinctFrom (r.note?.toList ++ seen) rest := by
  rw [distinctFrom, isNew]
  cases r.note? with
  | none => rfl
  | some note =>
      cases hseen : seen.contains note with
      | false =>
          simp only [hseen, Option.all_some, Bool.not_false, if_true, Bool.false_eq_true, if_false]
          rfl
      | true =>
          have hmem : note ∈ seen := List.contains_iff_mem.1 hseen
          have hagain : ∀ n, n ∈ seen ↔ n ∈ note :: seen := fun n =>
            ⟨List.mem_cons_of_mem note, fun hn => (List.mem_cons.1 hn).elim (· ▸ hmem) id⟩
          simp only [hseen, Option.all_some]
          exact distinctFrom_congr hagain rest

theorem mem_distinctFrom {seen : List String} {rows : List Row}
    (hrows : rows.Pairwise fun a b => a.position < b.position) {r : Row} :
    r ∈ distinctFrom seen rows ↔ r ∈ rows ∧ ∀ note, r.note? = some note →
      note ∉ seen ∧ ∀ other ∈ rows, other.position < r.position → other.note? ≠ some note := by
  induction rows generalizing seen with
  | nil => exact ⟨nofun, fun h => nomatch h.1⟩
  | cons first rest ih =>
      obtain ⟨hfirst, hrest⟩ := List.pairwise_cons.1 hrows
      rw [distinctFrom_cons, List.mem_append, ih hrest]
      constructor
      · rintro (hr | ⟨hr, hnew⟩)
        · split at hr
          · next hnew =>
              obtain rfl := List.mem_singleton.1 hr
              refine ⟨List.mem_cons_self, fun note hnote => ?_⟩
              refine ⟨isNew_iff.1 hnew note hnote, fun other hother hlt => ?_⟩
              rcases List.mem_cons.1 hother with rfl | hother
              · exact absurd hlt (Nat.lt_irrefl _)
              · exact absurd hlt (Nat.lt_asymm (hfirst other hother))
          · cases hr
        · refine ⟨List.mem_cons_of_mem first hr, fun note hnote => ?_⟩
          obtain ⟨hseen, hearlier⟩ := hnew note hnote
          rw [List.mem_append, not_or] at hseen
          refine ⟨hseen.2, fun other hother hlt => ?_⟩
          rcases List.mem_cons.1 hother with rfl | hother
          · exact fun h => hseen.1 (Option.mem_toList.2 h)
          · exact hearlier other hother hlt
      · rintro ⟨hr, hnew⟩
        rcases List.mem_cons.1 hr with rfl | hr
        · rw [if_pos (isNew_iff.2 fun note hnote => (hnew note hnote).1)]
          exact Or.inl (List.mem_singleton_self r)
        · refine Or.inr ⟨hr, fun note hnote => ?_⟩
          obtain ⟨hseen, hearlier⟩ := hnew note hnote
          refine ⟨fun hmem => ?_, fun other hother =>
            hearlier other (List.mem_cons_of_mem first hother)⟩
          rcases List.mem_append.1 hmem with hmem | hmem
          · exact hearlier first List.mem_cons_self (hfirst r hr) (Option.mem_toList.1 hmem)
          · exact hseen hmem

theorem keeps_distincts (cards : List Card) :
    Keeps (Row.IsFirstOfNote (Row.ofCards cards)) (Row.ofCards cards)
      (distincts (Row.ofCards cards)) where
  sublist := distinctFrom_sublist [] _
  mem_iff r := by
    rw [distincts, mem_distinctFrom (Row.ascending_ofCards cards)]
    refine and_congr_right fun _ => forall_congr' fun note => ?_
    rw [Row.note?_eq_some_iff]
    refine imp_congr_right fun _ => ?_
    simp only [List.not_mem_nil, not_false_eq_true, true_and, ne_eq, Row.note?_eq_some_iff]

theorem notes_cons (r : Row) (rest : List Row) :
    (r :: rest).filterMap (·.note?) = r.note?.toList ++ rest.filterMap (·.note?) := by
  rw [List.filterMap_eq_flatMap_toList, List.flatMap_cons, ← List.filterMap_eq_flatMap_toList]

/-- The notes of the rows that are kept are new and different. -/
theorem notes_distinctFrom (seen : List String) (rows : List Row) :
    ((distinctFrom seen rows).filterMap (·.note?)).Nodup ∧
      ∀ note ∈ (distinctFrom seen rows).filterMap (·.note?), note ∉ seen := by
  induction rows generalizing seen with
  | nil => exact ⟨List.nodup_nil, nofun⟩
  | cons r rest ih =>
      obtain ⟨hnodup, hseen⟩ := ih (r.note?.toList ++ seen)
      simp only [List.mem_append, not_or] at hseen
      rw [distinctFrom_cons]
      split
      · next hnew =>
          rw [List.singleton_append, notes_cons]
          constructor
          · refine List.nodup_append.2 ⟨?_, hnodup, fun note hnote other hother heq => ?_⟩
            · cases r.note? with
              | none => exact List.nodup_nil
              | some note => exact List.nodup_singleton note
            · exact (hseen other hother).1 (heq ▸ hnote)
          · intro note hnote
            rcases List.mem_append.1 hnote with hnote | hnote
            · exact isNew_iff.1 hnew note (Option.mem_toList.1 hnote)
            · exact (hseen note hnote).2
      · exact ⟨hnodup, fun note hnote => (hseen note hnote).2⟩

/-- Where the notes are new and different, nothing is left out. -/
theorem distinctFrom_eq_self {seen : List String} {rows : List Row}
    (hnodup : (rows.filterMap (·.note?)).Nodup)
    (hseen : ∀ note ∈ rows.filterMap (·.note?), note ∉ seen) : distinctFrom seen rows = rows := by
  induction rows generalizing seen with
  | nil => rfl
  | cons r rest ih =>
      rw [notes_cons] at hnodup hseen
      obtain ⟨-, hrest, hother⟩ := List.nodup_append.1 hnodup
      have hnew : isNew seen r = true := isNew_iff.2 fun note hnote =>
        hseen note (List.mem_append_left _ (Option.mem_toList.2 hnote))
      rw [distinctFrom_cons, if_pos hnew, ih hrest fun note hnote hmem => ?_]
      · rfl
      · rcases List.mem_append.1 hmem with hmem | hmem
        · exact hother note hmem note hnote rfl
        · exact hseen note (List.mem_append_right _ hnote) hmem

theorem distincts_distincts (rows : List Row) : distincts (distincts rows) = distincts rows := by
  obtain ⟨hnodup, hseen⟩ := notes_distinctFrom [] rows
  exact distinctFrom_eq_self hnodup hseen

/-! ## Both selections -/

/-- What a selection keeps a row for. -/
def Wants (rows : List Row) : Selection → Row → Prop
  | duplicate => Row.SharesFront rows
  | distinct => Row.IsFirstOfNote rows

theorem keeps_candidates (s : Selection) (cards : List Card) :
    Keeps (s.Wants (Row.ofCards cards)) (Row.ofCards cards)
      (candidates (some s) (Row.ofCards cards)) := by
  cases s with
  | duplicate => exact keeps_duplicates cards
  | distinct => exact keeps_distincts cards

theorem candidates_candidates (s : Selection) (rows : List Row) :
    candidates (some s) (candidates (some s) rows) = candidates (some s) rows := by
  cases s with
  | duplicate => exact duplicates_duplicates rows
  | distinct => exact distincts_distincts rows

/-- The orders that a selection may put rows in: one of fronts, or any. -/
def MayOrder (descending : Bool) (rows found : List Row) : Selection → Prop
  | duplicate => Search.IsStableSort (fun r => SortKey.ofCard "front".toList r.card) descending
      rows found
  | distinct => found.Perm rows

theorem MayOrder.perm {s : Selection} {descending : Bool} {rows found : List Row}
    (h : s.MayOrder descending rows found) : found.Perm rows := by
  cases s with
  | duplicate => exact Search.IsStableSort.perm h
  | distinct => exact h

end Selection

namespace Search

theorem matching_eq (cards : List Card) (q : Query) :
    matching cards q =
      (Selection.candidates q.selection (Row.ofCards cards)).filter
        fun r => q.condition.holds r.card := by
  simp only [matching, Matcher.isMatch_ofCondition]

theorem nodup_position_matching (cards : List Card) (q : Query) :
    ((matching cards q).map (·.position)).Nodup := by
  rw [matching_eq]
  exact (Row.nodup_position_ofCards cards).sublist
    ((List.filter_sublist.trans (Selection.candidates_sublist _ _)).map _)

/-- A page leaves out the rows before the offset, and without a limit it has room for all. -/
theorem window_eq_take_drop (offset : Nat) (limit : Option Nat) (rows : List Row) :
    window offset limit rows = (rows.drop offset).take (limit.getD rows.length) := by
  cases limit with
  | none =>
      have hroom : (rows.drop offset).length ≤ rows.length := by
        rw [List.length_drop]
        exact Nat.sub_le _ _
      exact (List.take_of_length_le hroom).symm
  | some n => rfl

theorem window_sublist (offset : Nat) (limit : Option Nat) (rows : List Row) :
    (window offset limit rows).Sublist rows := by
  rw [window_eq_take_drop]
  exact (List.take_sublist _ _).trans (List.drop_sublist offset rows)

/-- The orders of the results are those that the selection may put them in. -/
theorem mayOrder_iff_exists_results (s : Selection) (cards : List Card) (q : Query) (o : Options)
    (hs : q.selection = some s) (found : List Row) :
    s.MayOrder (isDescending q o) (matching cards q) found ↔
      ∃ rank, results rank cards q o = found := by
  unfold results arrange sortField
  rw [hs]
  cases s with
  | duplicate =>
      have hsort := isStableSort_sortByKey (fun r => SortKey.ofCard "front".toList r.card)
        (isDescending q o) (matching cards q)
      constructor
      · intro h
        exact ⟨id, hsort.unique h⟩
      · rintro ⟨-, rfl⟩
        exact hsort
  | distinct =>
      constructor
      · intro h
        exact exists_shuffle_eq (nodup_position_matching cards q) h
      · rintro ⟨rank, rfl⟩
        exact shuffle_perm rank _

/-- What a search with a selection gives: of the rows that the selection keeps, those that
meet the condition are put in one of its orders, and the page has the rows from the offset
on, up to the limit. -/
theorem selections_keep_and_order (s : Selection) (cards : List Card) (q : Query) (o : Options) :
    let kept := Selection.candidates (some s) (Row.ofCards cards)
    let found := kept.filter fun r => q.condition.holds r.card
    let descending := if q.sortBy.isSome then q.descending else o.descending
    Selection.Keeps (s.Wants (Row.ofCards cards)) (Row.ofCards cards) kept ∧
    (∀ rows, Selection.candidates (some s) (Selection.candidates (some s) rows) =
      Selection.candidates (some s) rows) ∧
    (∀ page : Page, (∃ rank, execute rank cards { q with selection := some s } o = page) ↔
      ∃ ordered, ordered.Perm found ∧ s.MayOrder descending found ordered ∧
        page.rows = (ordered.drop o.offset).take (o.limit.getD ordered.length) ∧
        page.count = found.length) ∧
    ∀ rank, ((execute rank cards { q with selection := some s } o).rows.map
      (·.position)).Nodup := by
  intro kept found descending
  have hfound : matching cards { q with selection := some s } = found := matching_eq _ _
  have hresults := mayOrder_iff_exists_results s cards { q with selection := some s } o rfl
  rw [hfound] at hresults
  refine ⟨Selection.keeps_candidates s cards, Selection.candidates_candidates s, fun page => ?_,
    fun rank => ?_⟩
  · constructor
    · rintro ⟨rank, rfl⟩
      have horder := (hresults _).2 ⟨rank, rfl⟩
      exact ⟨_, horder.perm, horder, window_eq_take_drop _ _ _, horder.perm.length_eq⟩
    · rintro ⟨ordered, hperm, horder, hrows, hcount⟩
      obtain ⟨rank, hrank⟩ := (hresults ordered).1 horder
      refine ⟨rank, ?_⟩
      rw [execute, hrank, window_eq_take_drop, ← hrows, hperm.length_eq, ← hcount]
  · have horder := (hresults _).2 ⟨rank, rfl⟩
    have hnodup := nodup_position_matching cards { q with selection := some s }
    rw [hfound] at hnodup
    exact ((horder.perm.map _).nodup_iff.2 hnodup).sublist ((window_sublist _ _ _).map _)

end Search

end CardSearch
