import CardSearch.Proofs.Matchers
import CardSearch.Proofs.QueryText
import CardSearch.Proofs.Readings

/-!
# A minus in front asks for the opposite

A minus before a query of one term is one more character of that term. It
changes nothing about where the term ends, because the scan is open and not
escaped after it, just as at the start; and the term without its minus is read
as before. What the term asks of cards is then negated, so that of any list of
cards the two queries take each position exactly once (`ArePartition`).

A query is of one term when every blank in it is quoted, grouped or escaped,
which `Shielded` asks character by character, in the steps of the scan.
-/

namespace CardSearch

/-! ## Positions -/

namespace Matcher

/-- The positions of the cards that meet the condition. -/
def places (m : Matcher) (cards : List Card) : List Nat :=
  (List.range cards.length).filter fun i => cards[i]?.any m.isMatch

theorem mem_places {m : Matcher} {cards : List Card} {i : Nat} :
    i ∈ m.places cards ↔ ∃ card, cards[i]? = some card ∧ m.isMatch card = true := by
  rw [places, List.mem_filter, List.mem_range, Option.any_eq_true]
  constructor
  · rintro ⟨-, hcard⟩
    exact hcard
  · rintro ⟨card, hcard, hmatch⟩
    exact ⟨(List.getElem?_eq_some_iff.1 hcard).1, card, hcard, hmatch⟩

/-- The cards that are kept are those at the positions, in order. -/
theorem filter_eq_places (m : Matcher) (cards : List Card) :
    m.filter cards = (m.places cards).filterMap (cards[·]?) := by
  rw [filter, places]
  induction cards with
  | nil => rfl
  | cons card cards ih =>
      rw [List.length_cons, List.range_succ_eq_map, List.filter_cons, List.filter_cons,
        List.filter_map, ih]
      cases hcard : m.isMatch card with
      | true => simp [hcard, List.filterMap_map, Function.comp_def]
      | false => simp [hcard, List.filterMap_map, Function.comp_def]

theorem places_ascending (m : Matcher) (cards : List Card) :
    (m.places cards).Pairwise (· < ·) :=
  List.pairwise_lt_range.sublist List.filter_sublist

/-- Of any list of cards, two matchers take each position once, and both keep
the order. -/
structure ArePartition (m n : Matcher) (cards : List Card) : Prop where
  left : m.filter cards = (m.places cards).filterMap (cards[·]?)
  right : n.filter cards = (n.places cards).filterMap (cards[·]?)
  left_ascending : (m.places cards).Pairwise (· < ·)
  right_ascending : (n.places cards).Pairwise (· < ·)
  disjoint : (m.places cards).Disjoint (n.places cards)
  cover : ∀ i, i ∈ m.places cards ∨ i ∈ n.places cards ↔ i < cards.length

theorem arePartition_of_not {m n : Matcher} (h : ∀ card, n.isMatch card = !m.isMatch card)
    (cards : List Card) : m.ArePartition n cards where
  left := m.filter_eq_places cards
  right := n.filter_eq_places cards
  left_ascending := m.places_ascending cards
  right_ascending := n.places_ascending cards
  disjoint := by
    intro i hm hn
    obtain ⟨card, hcard, hmatch⟩ := mem_places.1 hm
    obtain ⟨card', hcard', hmatch'⟩ := mem_places.1 hn
    obtain rfl := Option.some.inj (hcard.symm.trans hcard')
    rw [h, hmatch] at hmatch'
    cases hmatch'
  cover := by
    intro i
    constructor
    · rintro (hi | hi)
      · exact List.mem_range.1 (List.mem_filter.1 hi).1
      · exact List.mem_range.1 (List.mem_filter.1 hi).1
    · intro hi
      have hcard := List.getElem?_eq_getElem hi
      cases hmatch : m.isMatch cards[i] with
      | true => exact Or.inl (mem_places.2 ⟨_, hcard, hmatch⟩)
      | false => exact Or.inr (mem_places.2 ⟨_, hcard, by rw [h, hmatch]; rfl⟩)

end Matcher

namespace Query

open Time (Instant)

/-! ## Queries of one term -/

/-- Whether every blank between terms is quoted, grouped or escaped. -/
def Shielded (m : Mode) (escaped : Bool) : List Char → Prop
  | [] => True
  | c :: rest =>
    ([c] ∈ termMarks → m.isOpen = false ∨ escaped = true) ∧
      Shielded ((m.after? escaped c).getD m) (c == '\\') rest

instance decidableShielded (m : Mode) (escaped : Bool) :
    (s : List Char) → Decidable (Shielded m escaped s)
  | [] => isTrue True.intro
  | c :: rest =>
    have := decidableShielded ((m.after? escaped c).getD m) (c == '\\') rest
    inferInstanceAs (Decidable (_ ∧ _))

theorem not_mark_of_shielded {m : Mode} {escaped : Bool} {s : List Char}
    (h : Shielded m escaped s) (sep : List Char) :
    .mark sep ∉ pieces termMarks m escaped s := by
  have hone : ∀ sep ∈ termMarks, sep.length = 1 := by decide
  induction s generalizing m escaped with
  | nil => rw [pieces_nil]; exact List.not_mem_nil
  | cons c rest ih =>
      obtain ⟨hc, hrest⟩ := h
      cases hm : m.after? escaped c with
      | some m' =>
          rw [hm, Mode.ne_backslash_of_after? hm] at hrest
          rw [pieces_cons_hidden hm, List.mem_cons, not_or]
          exact ⟨Piece.noConfusion, ih hrest⟩
      | none =>
          rw [hm] at hrest
          have hsep : separatorIn? termMarks m escaped (c :: rest) = none := by
            cases hfound : separatorIn? termMarks m escaped (c :: rest) with
            | none => rfl
            | some sep' =>
                have hmem := mem_of_separatorIn?_eq_some hfound
                rw [separatorIn?_of_single hone hfound] at hmem
                rcases hc hmem with hopen | hesc
                · simp [separatorIn?, hopen] at hfound
                · simp [separatorIn?, hesc] at hfound
          rw [pieces_cons_text hm hsep, List.mem_cons, not_or]
          exact ⟨Piece.noConfusion, ih hrest⟩

theorem assemble_of_not_mark (keep : Bool) {ps : List Piece} (h : ∀ sep, .mark sep ∉ ps) :
    (assemble keep ps).2 = [] := by
  induction ps with
  | nil => rfl
  | cons p ps ih =>
      have hps := ih fun sep hsep => h sep (List.mem_cons_of_mem p hsep)
      cases p with
      | text c => exact hps
      | hidden c => exact hps
      | mark sep => exact absurd List.mem_cons_self (h sep)

/-- A query of the single term `u`, which has no minus of its own. -/
structure IsSingleTerm (t u : List Char) : Prop where
  trimmed : IsTrimmed t
  terms : IsTermList t
  shielded : Shielded .start false t
  token : split termMarks false t = [u]
  unsigned : u.head? ≠ some '-'

theorem stripBrackets_minus (t : List Char) : stripBrackets ('-' :: t) = '-' :: t :=
  stripBrackets_eq_self (by simp)

theorem pieces_minus {seps : List (List Char)} (hne : ∀ sep ∈ seps, sep ≠ [])
    (hheads : ∀ sep ∈ seps, sep.head? ≠ some '-') (t : List Char) :
    pieces seps .start false ('-' :: t) = .text '-' :: pieces seps .start false t :=
  pieces_cons_text rfl (separatorIn?_eq_none hne (fun _ => hheads) false t)

/-- A character of a token before the other pieces is put before the first token. -/
theorem tokens_cons_text (keep : Bool) (c : Char) (ps : List Piece) :
    tokens keep (.text c :: ps) = (c :: (assemble keep ps).1) :: (assemble keep ps).2 := by
  rw [tokens, assemble, flush, if_neg (List.cons_ne_nil _ _), List.singleton_append]

/-- What a term asks for does not depend on how it is called in an error. -/
theorem bodyTerm_ok_congr {now : Instant} {s t body : List Char} {term : Term}
    (h : (bodyTerm now s body).result = .ok term) : (bodyTerm now t body).result = .ok term := by
  unfold bodyTerm at h ⊢
  split
  · next hsplit => rw [hsplit] at h; exact h
  · next hsplit =>
      simp only [hsplit] at h
      split
      · next op hop => simp only [hop] at h; exact h
      · next hop => simp only [hop] at h; cases h
  · next hword hfield =>
      split at h
      · next hsplit => exact absurd hsplit (hword _)
      · next hsplit => exact absurd hsplit (hfield _ _ _)
      · cases h

theorem ofTerms_single_ok_iff {now : Instant} {s body : List Char} {negated : Bool} {q : Query} :
    ((Reading.sequence [(bodyTerm now s body).map (SignedTerm.mk negated)]).map ofTerms).result =
        .ok q ↔
      ∃ term, (bodyTerm now s body).result = .ok term ∧ q = ofTerms [⟨negated, term⟩] := by
  cases hterm : (bodyTerm now s body).result with
  | error e =>
      have hsigned := (Reading.result_map_eq_error_iff (f := SignedTerm.mk negated)).2 hterm
      rw [Reading.result_map, Reading.sequence_cons_error hsigned]
      constructor
      · intro h
        cases h
      · rintro ⟨term, h, -⟩
        cases h
  | ok term =>
      have hsigned : ((bodyTerm now s body).map (SignedTerm.mk negated)).result =
          .ok ⟨negated, term⟩ := Reading.result_map_eq_ok_iff.2 ⟨term, hterm, rfl⟩
      rw [Reading.result_map, Reading.result_sequence_cons_ok hsigned]
      constructor
      · intro h
        exact ⟨term, rfl, (Except.ok.inj h).symm⟩
      · rintro ⟨term', h, rfl⟩
        obtain rfl := Except.ok.inj h
        rfl

namespace IsSingleTerm

variable {t u : List Char} (h : IsSingleTerm t u)

include h

theorem ne_nil : t ≠ [] := by
  rintro rfl
  have hnone : split termMarks false [] = [] := by cbv
  exact absurd (hnone.symm.trans h.token) (by simp)

theorem minus_trimmed : IsTrimmed ('-' :: t) where
  first := by
    intro c hc
    obtain rfl := Option.some.inj hc
    decide
  last := by
    intro c hc
    rw [List.getLast?_cons_of_ne_nil h.ne_nil] at hc
    exact h.trimmed.last c hc

theorem minus_terms : IsTermList ('-' :: t) where
  unwrapped := stripBrackets_minus t
  unbranched := by
    have ht := h.terms.unbranched
    rw [split_eq h.terms.unwrapped, orderSeparators_orMark, tokens, List.mem_append, not_or] at ht
    rw [split_eq (stripBrackets_minus t), orderSeparators_orMark,
      pieces_minus (by decide) (by decide), tokens_cons_text, List.mem_cons, not_or]
    exact ⟨by simp [orMark], ht.2⟩

theorem minus_token : split termMarks false ('-' :: t) = ['-' :: u] := by
  have hu := h.token
  have hmore := assemble_of_not_mark false (not_mark_of_shielded h.shielded)
  rw [split_eq h.terms.unwrapped, orderSeparators_termMarks, tokens, hmore, List.append_nil,
    flush] at hu
  have hfirst : (assemble false (pieces termMarks .start false t)).1 = u := by
    split at hu
    · cases hu
    · exact List.singleton_inj.1 hu
  rw [split_eq (stripBrackets_minus t), orderSeparators_termMarks,
    pieces_minus (by decide) (by decide), tokens_cons_text, hmore, hfirst]

theorem parse_ok_iff {now : Instant} {q : Query} :
    (parse now t).result = .ok q ↔
      ∃ term, (bodyTerm now u u).result = .ok term ∧ q = ofTerms [⟨false, term⟩] := by
  rw [parse_of_isTermList h.trimmed h.terms, h.token, List.map_singleton, readTerm,
    splitMinus_of_head h.unsigned]
  exact ofTerms_single_ok_iff

theorem parse_minus_ok_iff {now : Instant} {q : Query} :
    (parse now ('-' :: t)).result = .ok q ↔
      ∃ term, (bodyTerm now u u).result = .ok term ∧ q = ofTerms [⟨true, term⟩] := by
  rw [parse_of_isTermList h.minus_trimmed h.minus_terms, h.minus_token, List.map_singleton]
  refine (ofTerms_single_ok_iff (s := '-' :: u)).trans ?_
  constructor
  · rintro ⟨term, hterm, hq⟩
    exact ⟨term, bodyTerm_ok_congr hterm, hq⟩
  · rintro ⟨term, hterm, hq⟩
    exact ⟨term, bodyTerm_ok_congr hterm, hq⟩

/-- Both queries are read, with and without the minus, or neither is. -/
theorem succeeds_iff (now : Instant) :
    (∃ q, (parse now t).result = .ok q) ↔ ∃ q, (parse now ('-' :: t)).result = .ok q := by
  constructor
  · rintro ⟨q, hq⟩
    obtain ⟨term, hterm, -⟩ := h.parse_ok_iff.1 hq
    exact ⟨_, h.parse_minus_ok_iff.2 ⟨term, hterm, rfl⟩⟩
  · rintro ⟨q, hq⟩
    obtain ⟨term, hterm, -⟩ := h.parse_minus_ok_iff.1 hq
    exact ⟨_, h.parse_ok_iff.2 ⟨term, hterm, rfl⟩⟩

theorem minus_of_condition {now : Instant} {q : Query} {c : Condition}
    (hq : (parse now t).result = .ok q) (hc : q.condition = .all [c]) :
    q = { condition := .all [c] } ∧
      (parse now ('-' :: t)).result = .ok { condition := .all [.not c] } := by
  obtain ⟨term, hterm, rfl⟩ := h.parse_ok_iff.1 hq
  cases term with
  | filter c' =>
      obtain rfl : c' = c := by simpa [ofTerms, SignedTerm.condition?] using hc
      exact ⟨rfl, h.parse_minus_ok_iff.2 ⟨_, hterm, rfl⟩⟩
  | sort field => cases hc
  | select s => cases hc

end IsSingleTerm

theorem bodyTerm_of_split {now : Instant} {term body field value : List Char} {op : TermOp}
    (hsplit : split TermOp.signs true body = [field, op.sign, value]) :
    bodyTerm now term body =
      fieldTerm now (String.ofList field) op (String.ofList value) := by
  simp only [bodyTerm, hsplit, TermOp.ofSign?_sign]

theorem fieldTerm_sortBy (now : Instant) (op : TermOp) (value : String) :
    fieldTerm now "sortBy" op value = .pure (.sort value) :=
  if_pos rfl

theorem fieldTerm_selection (now : Instant) (op : TermOp) (s : Selection) :
    fieldTerm now "is" op s.name = .pure (.select s) := by
  cases s <;> rfl

/-- A minus before a query of one term. Both queries are read or neither is. What
the term asks of cards is negated, and of any list of cards the two queries take
each position once; an order is turned round; a selection stays as it is. -/
theorem minus_complements {t u : List Char} (h : IsSingleTerm t u) (now : Instant) :
    ((∃ q, (parse now t).result = .ok q) ↔ ∃ q, (parse now ('-' :: t)).result = .ok q) ∧
    (∀ q c, (parse now t).result = .ok q → q.condition = .all [c] →
      q = { condition := .all [c] } ∧
      (parse now ('-' :: t)).result = .ok { condition := .all [.not c] } ∧
      ∀ cards, (Matcher.ofCondition (.all [c])).ArePartition
        (Matcher.ofCondition (.all [.not c])) cards) ∧
    (∀ op field, split TermOp.signs true u = ["sortBy".toList, TermOp.sign op, field] →
      (parse now t).result =
        .ok { condition := .all [], sortBy := some (String.ofList field), descending := false } ∧
      (parse now ('-' :: t)).result =
        .ok { condition := .all [], sortBy := some (String.ofList field), descending := true }) ∧
    ∀ op s, split TermOp.signs true u = ["is".toList, TermOp.sign op, (Selection.name s).toList] →
      (parse now t).result = .ok { condition := .all [], selection := some s } ∧
      (parse now ('-' :: t)).result = .ok { condition := .all [], selection := some s } := by
  refine ⟨h.succeeds_iff now, ?_, ?_, ?_⟩
  · intro q c hq hc
    obtain ⟨hsame, hminus⟩ := h.minus_of_condition hq hc
    refine ⟨hsame, hminus, Matcher.arePartition_of_not fun card => ?_⟩
    rw [Matcher.isMatch_ofCondition, Matcher.isMatch_ofCondition,
      Condition.holds_all_singleton, Condition.holds_all_singleton, Condition.holds_not]
  · intro op field hsplit
    have hterm : (bodyTerm now u u).result = .ok (.sort (String.ofList field)) := by
      rw [bodyTerm_of_split hsplit]
      exact congrArg Reading.result (fieldTerm_sortBy now op (String.ofList field))
    exact ⟨h.parse_ok_iff.2 ⟨_, hterm, rfl⟩, h.parse_minus_ok_iff.2 ⟨_, hterm, rfl⟩⟩
  · intro op s hsplit
    have hterm : (bodyTerm now u u).result = .ok (.select s) := by
      rw [bodyTerm_of_split hsplit, String.ofList_toList, String.ofList_toList]
      exact congrArg Reading.result (fieldTerm_selection now op s)
    exact ⟨h.parse_ok_iff.2 ⟨_, hterm, rfl⟩, h.parse_minus_ok_iff.2 ⟨_, hterm, rfl⟩⟩

theorem minus_complements_quoted_blank :
    IsSingleTerm "deck:\"a b\"".toList "deck:a b".toList ∧
    (parse (.ofSeconds 0) ('-' :: "deck:\"a b\"".toList)).result =
      .ok { condition := .all [.not (.field "deck" .pattern (.text "a b"))] } ∧
    ∀ cards, (Matcher.ofCondition (.all [.field "deck" .pattern (.text "a b")])).ArePartition
      (Matcher.ofCondition (.all [.not (.field "deck" .pattern (.text "a b"))])) cards := by
  have h : IsSingleTerm "deck:\"a b\"".toList "deck:a b".toList :=
    { trimmed := by decide
      terms := ⟨by decide, by decide +kernel⟩
      shielded := by decide
      token := by cbv
      unsigned := by decide }
  have hq : (parse (.ofSeconds 0) "deck:\"a b\"".toList).result =
      .ok { condition := .all [.field "deck" .pattern (.text "a b")] } := by cbv
  obtain ⟨-, hminus⟩ := (minus_complements h (.ofSeconds 0)).2.1 _ _ hq rfl
  exact ⟨h, hminus⟩

end Query

end CardSearch
