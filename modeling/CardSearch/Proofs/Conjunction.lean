import CardSearch.Proofs.Directives
import CardSearch.Proofs.Matchers
import CardSearch.Proofs.QueryText
import CardSearch.Proofs.Readings

/-!
# A blank between two queries asks for both

Two lists of terms with a blank between them are one list of terms: the terms of
the first, then those of the second. The blank counts as a separator when the
scan of the first text ends outside quotes and groups and not on a backslash;
from there on the second text is read as if it stood alone, since the scan
carries nothing else over. Reading the joined list stops at its first error, and
the orders and selections of its terms are folded from left to right, so both
can be cut where the texts were joined.
-/

namespace CardSearch.Query

open Time (Instant)

theorem pieces_termMarks_blank (t : List Char) :
    pieces termMarks .start false (' ' :: t) =
      .mark [' '] :: pieces termMarks .start false t :=
  pieces_cons_mark rfl rfl

/-- Two lists of terms, the first of which lets a blank after it separate. -/
structure CanJoin (s t : List Char) : Prop where
  left_ne_nil : s ≠ []
  right_ne_nil : t ≠ []
  left_trimmed : IsTrimmed s
  right_trimmed : IsTrimmed t
  left_terms : IsTermList s
  right_terms : IsTermList t
  joined_terms : IsTermList (s ++ ' ' :: t)
  left_open : Mode.start.after false s = .start
  left_last : s.getLast? ≠ some '\\'

namespace CanJoin

variable {s t : List Char} (h : CanJoin s t)

include h

theorem joined_trimmed : IsTrimmed (s ++ ' ' :: t) := by
  have hst := h.left_trimmed.join h.right_trimmed h.left_ne_nil h.right_ne_nil [' ']
  rwa [List.append_assoc] at hst

theorem split_eq_append :
    split termMarks false (s ++ ' ' :: t) =
      split termMarks false s ++ split termMarks false t := by
  have hone : ∀ sep ∈ termMarks, sep.length = 1 := by decide
  rw [split_eq h.left_terms.unwrapped, split_eq h.right_terms.unwrapped,
    split_eq h.joined_terms.unwrapped, orderSeparators_termMarks, pieces_append hone,
    h.left_open, endsEscaped_eq_false h.left_ne_nil h.left_last, pieces_termMarks_blank,
    tokens_append_mark, if_neg Bool.false_ne_true, List.append_nil]

theorem parse_eq (now : Instant) :
    parse now (s ++ ' ' :: t) =
      (Reading.sequence ((split termMarks false s).map (readTerm now) ++
        (split termMarks false t).map (readTerm now))).map ofTerms := by
  rw [parse_of_isTermList h.joined_trimmed h.joined_terms, h.split_eq_append, List.map_append]

theorem result_of_error_left {now : Instant} {e : QueryError}
    (hs : (parse now s).result = .error e) : (parse now (s ++ ' ' :: t)).result = .error e := by
  rw [parse_of_isTermList h.left_trimmed h.left_terms, Reading.result_map_eq_error_iff] at hs
  rw [h.parse_eq, Reading.result_map_eq_error_iff]
  exact Reading.result_sequence_append_of_error hs

theorem result_of_error_right {now : Instant} {p : Query} {e : QueryError}
    (hs : (parse now s).result = .ok p) (ht : (parse now t).result = .error e) :
    (parse now (s ++ ' ' :: t)).result = .error e := by
  rw [parse_of_isTermList h.left_trimmed h.left_terms, Reading.result_map_eq_ok_iff] at hs
  rw [parse_of_isTermList h.right_trimmed h.right_terms, Reading.result_map_eq_error_iff] at ht
  obtain ⟨as, has, -⟩ := hs
  rw [h.parse_eq, Reading.result_map_eq_error_iff, Reading.result_sequence_append_of_ok has, ht]
  rfl

theorem result_of_ok {now : Instant} {p q : Query} (hs : (parse now s).result = .ok p)
    (ht : (parse now t).result = .ok q) :
    ∃ as bs, p = ofTerms as ∧ q = ofTerms bs ∧
      (parse now (s ++ ' ' :: t)).result = .ok (ofTerms (as ++ bs)) := by
  rw [parse_of_isTermList h.left_trimmed h.left_terms, Reading.result_map_eq_ok_iff] at hs
  rw [parse_of_isTermList h.right_trimmed h.right_terms, Reading.result_map_eq_ok_iff] at ht
  obtain ⟨as, has, rfl⟩ := hs
  obtain ⟨bs, hbs, rfl⟩ := ht
  refine ⟨as, bs, rfl, rfl, ?_⟩
  rw [h.parse_eq, Reading.result_map, Reading.result_sequence_append_of_ok has, hbs]
  rfl

theorem fails_iff (now : Instant) :
    (∃ e, (parse now (s ++ ' ' :: t)).result = .error e) ↔
      (∃ e, (parse now s).result = .error e) ∨ ∃ e, (parse now t).result = .error e := by
  constructor
  · rintro ⟨e, he⟩
    cases hs : (parse now s).result with
    | error e' => exact Or.inl ⟨e', rfl⟩
    | ok p =>
        cases ht : (parse now t).result with
        | error e' => exact Or.inr ⟨e', rfl⟩
        | ok q =>
            obtain ⟨as, bs, -, -, hst⟩ := h.result_of_ok hs ht
            rw [hst] at he
            cases he
  · rintro (⟨e, he⟩ | ⟨e, he⟩)
    · exact ⟨e, h.result_of_error_left he⟩
    · cases hs : (parse now s).result with
      | error e' => exact ⟨e', h.result_of_error_left hs⟩
      | ok p => exact ⟨e, h.result_of_error_right hs he⟩

end CanJoin

/-- A blank between two queries: the first error counts, the conditions are put
one after the other, and the second query wins where both set an order or a
selection. So a card meets the whole if it meets both. -/
theorem blank_joins_queries {s t : List Char} (h : CanJoin s t) (now : Instant) :
    ((∃ e, (parse now (s ++ ' ' :: t)).result = .error e) ↔
      (∃ e, (parse now s).result = .error e) ∨ ∃ e, (parse now t).result = .error e) ∧
    (∀ e, (parse now s).result = .error e →
      (parse now (s ++ ' ' :: t)).result = .error e) ∧
    (∀ p e, (parse now s).result = .ok p → (parse now t).result = .error e →
      (parse now (s ++ ' ' :: t)).result = .error e) ∧
    ∀ p q, (parse now s).result = .ok p → (parse now t).result = .ok q →
      ∃ cs ds r, p.condition = .all cs ∧ q.condition = .all ds ∧
        (parse now (s ++ ' ' :: t)).result = .ok r ∧
        r.condition = .all (cs ++ ds) ∧
        r.sortBy = (if q.sortBy.isSome then q.sortBy else p.sortBy) ∧
        r.descending = (if q.sortBy.isSome then q.descending else p.descending) ∧
        r.selection = (if q.selection.isSome then q.selection else p.selection) ∧
        ∀ card, (Matcher.ofCondition r.condition).isMatch card =
          ((Matcher.ofCondition p.condition).isMatch card &&
            (Matcher.ofCondition q.condition).isMatch card) := by
  refine ⟨h.fails_iff now, fun e => h.result_of_error_left,
    fun p e => h.result_of_error_right, ?_⟩
  intro p q hp hq
  obtain ⟨as, bs, rfl, rfl, hr⟩ := h.result_of_ok hp hq
  refine ⟨_, _, _, rfl, rfl, hr, ?_⟩
  rw [ofTerms_append]
  refine ⟨rfl, ?_, rfl, ?_, fun card => ?_⟩
  · show (ofTerms bs).sortBy.or (ofTerms as).sortBy = _
    cases (ofTerms bs).sortBy <;> rfl
  · show (ofTerms bs).selection.or (ofTerms as).selection = _
    cases (ofTerms bs).selection <;> rfl
  · simp only [Matcher.isMatch_ofCondition]
    exact Condition.holds_all_append _ _ card

theorem blank_joins_quoted_and_order :
    CanJoin "deck:\"a b\"".toList "-sortBy:f".toList ∧
    ∃ r, (parse (.ofSeconds 0) ("deck:\"a b\"".toList ++ ' ' :: "-sortBy:f".toList)).result =
      .ok r ∧ r.condition = .all [.field "deck" .pattern (.text "a b")] ∧
      r.sortBy = some "f" ∧ r.descending = true := by
  have h : CanJoin "deck:\"a b\"".toList "-sortBy:f".toList :=
    { left_ne_nil := by decide
      right_ne_nil := by decide
      left_trimmed := by decide
      right_trimmed := by decide
      left_terms := ⟨by decide, by decide +kernel⟩
      right_terms := ⟨by decide, by decide +kernel⟩
      joined_terms := ⟨by decide, by decide +kernel⟩
      left_open := by decide
      left_last := by decide }
  have hs : (parse (.ofSeconds 0) "deck:\"a b\"".toList).result =
      .ok { condition := .all [.field "deck" .pattern (.text "a b")] } := by cbv
  have ht : (parse (.ofSeconds 0) "-sortBy:f".toList).result =
      .ok { condition := .all [], sortBy := some "f", descending := true } := by cbv
  obtain ⟨cs, ds, r, hcs, hds, hr, hcond, hsort, hdesc, -⟩ :=
    (blank_joins_queries h (.ofSeconds 0)).2.2.2 _ _ hs ht
  obtain rfl := Condition.all.inj hcs
  obtain rfl := Condition.all.inj hds
  exact ⟨h, r, hr, hcond, hsort, hdesc⟩

end CardSearch.Query
