import CardSearch.Proofs.MatchingPair
import CardSearch.Proofs.QueryText
import CardSearch.Proofs.Readings
import Mathlib

/-!
# Brackets around a query

A pair of brackets around a query text is taken off twice: once before the text is split,
and once more by the splitter. A query with at most one pair of its own is therefore read
in brackets as without them. A third pair is left for the scan, to which it is a group, and
a group is never cut: what stands in three or more pairs of brackets is one term, whatever
terms and alternatives it is made of (`brackets_around_query`). Only the outermost of these
pairs is hidden then, as groups do not nest.
-/

namespace CardSearch.Query

open Time (Instant)

/-! ## Layers of brackets -/

/-- A text in a number of pairs of brackets. -/
def bracketed (n : Nat) (s : List Char) : List Char :=
  List.replicate n '(' ++ s ++ List.replicate n ')'

@[simp] theorem bracketed_zero (s : List Char) : bracketed 0 s = s := List.append_nil s

theorem bracketed_succ (n : Nat) (s : List Char) :
    bracketed (n + 1) s = '(' :: (bracketed n s ++ [')']) := by
  rw [bracketed, bracketed, List.replicate_succ, List.replicate_succ']
  simp only [List.cons_append, List.append_assoc]

/-- No bracket of either kind. -/
def IsUnbracketed (s : List Char) : Prop := ∀ c ∈ s, c ≠ '(' ∧ c ≠ ')'

/-- Whether the scan is inside quotation marks after a text without brackets. -/
def quotedAfter (quoted escaped : Bool) : List Char → Bool
  | [] => quoted
  | c :: rest => quotedAfter (if !escaped && c == '"' then !quoted else quoted) (c == '\\') rest

/-! ## Which brackets match -/

theorem closesAtEnd_opening (n depth : Nat) (rest : List Char) :
    closesAtEnd false false depth (List.replicate n '(' ++ rest) =
      closesAtEnd false false (depth + n) rest := by
  induction n generalizing depth with
  | zero => rfl
  | succ n ih =>
      rw [List.replicate_succ, List.cons_append, ← Nat.succ_add_eq_add_succ, ← ih]
      rfl

theorem closesAtEnd_append {s : List Char} (hs : IsUnbracketed s) (quoted escaped : Bool)
    (depth : Nat) (rest : List Char) :
    closesAtEnd quoted escaped depth (s ++ rest) =
      closesAtEnd (quotedAfter quoted escaped s) (endsEscaped escaped s) depth rest := by
  induction s generalizing quoted escaped with
  | nil => rfl
  | cons c s ih =>
      obtain ⟨hopening, hclosing⟩ := hs c List.mem_cons_self
      rw [quotedAfter, endsEscaped, ← ih fun d hd => hs d (List.mem_cons_of_mem c hd),
        List.cons_append, closesAtEnd]
      by_cases hquote : c = '"'
      · subst hquote
        cases escaped <;> rfl
      · cases escaped <;> simp [hopening, hclosing, hquote]

theorem closesAtEnd_of_quoted (escaped : Bool) (depth n : Nat) :
    closesAtEnd true escaped depth (List.replicate n ')') = (depth == 0) := by
  induction n generalizing escaped with
  | zero => rfl
  | succ n ih =>
      rw [List.replicate_succ, closesAtEnd]
      cases escaped <;> exact ih false

theorem closesAtEnd_of_lt {n depth : Nat} (h : n < depth) (escaped : Bool) :
    closesAtEnd false escaped depth (List.replicate n ')') = false := by
  induction n generalizing depth escaped with
  | zero => exact beq_eq_false_iff_ne.2 (Nat.ne_of_gt h)
  | succ n ih =>
      rw [List.replicate_succ, closesAtEnd]
      cases escaped with
      | true => exact ih (Nat.lt_of_succ_lt h) false
      | false =>
          show (if depth ≤ 1 ∧ List.replicate n ')' ≠ [] then false
            else closesAtEnd false false (depth - 1) (List.replicate n ')')) = false
          split
          · rfl
          · exact ih (Nat.lt_sub_of_add_lt h) false

theorem closesAtEnd_closing (n : Nat) :
    closesAtEnd false false n (List.replicate n ')') = true := by
  induction n with
  | zero => rfl
  | succ n ih =>
      show (if n + 1 ≤ 1 ∧ List.replicate n ')' ≠ [] then false
        else closesAtEnd false false n (List.replicate n ')')) = true
      rw [if_neg, ih]
      -- The outermost bracket is closed by the last one only.
      rintro ⟨hle, hne⟩
      obtain rfl : n = 0 := by omega
      exact hne rfl

/-- The brackets around a text match when it ends outside quotation marks and not in a backslash. -/
theorem isWrapped_bracketed_iff {s : List Char} (hs : IsUnbracketed s) (n : Nat) :
    isWrapped (bracketed (n + 1) s) = true ↔
      quotedAfter false false s = false ∧ endsEscaped false s = false := by
  have hends : isWrapped (bracketed (n + 1) s) =
      closesAtEnd false false 0 (bracketed (n + 1) s) := by
    rw [bracketed_succ, isWrapped_pair]
  have hscan : closesAtEnd false false 0 (bracketed (n + 1) s) =
      closesAtEnd (quotedAfter false false s) (endsEscaped false s) (n + 1)
        (List.replicate (n + 1) ')') := by
    rw [bracketed, List.append_assoc, closesAtEnd_opening, closesAtEnd_append hs, Nat.zero_add]
  rw [hends, hscan]
  -- In quoted text no closing bracket counts, after a backslash the first one does not.
  cases quotedAfter false false s with
  | true => simp [closesAtEnd_of_quoted]
  | false =>
      cases endsEscaped false s with
      | true =>
          have hopen := closesAtEnd_of_lt (Nat.lt_succ_self n) false
          simp only [List.replicate_succ, closesAtEnd, if_true]
          simpa using hopen
      | false => simp [closesAtEnd_closing]

theorem stripBrackets_bracketed {n : Nat} {s : List Char}
    (h : isWrapped (bracketed (n + 1) s) = true) :
    stripBrackets (bracketed (n + 1) s) = bracketed n s := by
  rw [bracketed_succ] at h ⊢
  exact stripBrackets_pair_iff.2 h

/-! ## The third pair -/

theorem tokens_of_no_mark {ps : List Piece} (h : ∀ sep, .mark sep ∉ ps) (keep : Bool) :
    tokens keep ps = flush (ps.flatMap (Piece.shown true)) := by
  have key : assemble keep ps = (ps.flatMap (Piece.shown true), []) := by
    induction ps with
    | nil => rfl
    | cons p ps ih =>
        have hrest := ih fun sep hsep => h sep (List.mem_cons_of_mem p hsep)
        cases p with
        | text c => rw [assemble, hrest]; rfl
        | hidden c => rw [assemble, hrest]; rfl
        | mark sep => exact absurd List.mem_cons_self (h sep)
  rw [tokens, key, List.append_nil]

theorem separatorIn?_of_not_isOpen {m : Mode} (hm : m.isOpen = false) (seps : List (List Char))
    (escaped : Bool) (s : List Char) : separatorIn? seps m escaped s = none := by
  rw [separatorIn?, hm]
  rfl

theorem separatorIn?_nil (m : Mode) (escaped : Bool) (s : List Char) :
    separatorIn? [] m escaped s = none := by
  unfold separatorIn?
  split <;> rfl

/-- In a group all but the quotation marks is text. -/
theorem pieces_append_grouped {s : List Char} (hs : IsUnbracketed s) (seps : List (List Char))
    (quoted escaped : Bool) (rest : List Char) :
    pieces seps ⟨quoted, true⟩ escaped (s ++ rest) =
      pieces [] ⟨quoted, false⟩ escaped s ++
        pieces seps ⟨quotedAfter quoted escaped s, true⟩ (endsEscaped escaped s) rest := by
  induction s generalizing quoted escaped with
  | nil => rw [pieces_nil]; rfl
  | cons c s ih =>
      obtain ⟨hopening, hclosing⟩ := hs c List.mem_cons_self
      have hrest := ih fun d hd => hs d (List.mem_cons_of_mem c hd)
      have hgroup : Mode.isOpen ⟨quoted, true⟩ = false := by simp [Mode.isOpen]
      rw [List.cons_append, quotedAfter, endsEscaped]
      -- Nothing but an unescaped quotation mark changes the mode.
      by_cases hquote : escaped = false ∧ c = '"'
      · obtain ⟨rfl, rfl⟩ := hquote
        have hgrouped : Mode.after? ⟨quoted, true⟩ false '"' = some ⟨!quoted, true⟩ := rfl
        have hplain : Mode.after? ⟨quoted, false⟩ false '"' = some ⟨!quoted, false⟩ := rfl
        rw [pieces_cons_hidden hgrouped, pieces_cons_hidden hplain, hrest]
        rfl
      · have hnone : ∀ grouped, Mode.after? ⟨quoted, grouped⟩ escaped c = none := by
          intro grouped
          cases escaped <;> simp_all [Mode.after?]
        have hstays : (if !escaped && c == '"' then !quoted else quoted) = quoted := by
          cases escaped <;> simp_all
        rw [pieces_cons_text (hnone true) (separatorIn?_of_not_isOpen hgroup _ _ _),
          pieces_cons_text (hnone false) (separatorIn?_nil _ _ _), hrest, hstays]
        rfl

theorem endsEscaped_opening (n : Nat) : endsEscaped false (List.replicate n '(') = false := by
  induction n with
  | zero => rfl
  | succ n ih => exact ih

theorem passes_replicate {seps : List (List Char)} (hne : ∀ sep ∈ seps, sep ≠ []) {m : Mode}
    {c : Char} (hc : m.IsText seps c) (n : Nat) (rest : List Char) :
    Passes seps m rest false (List.replicate n c) := by
  refine passes_of_isText hne (fun d hd => ?_) rest
  rwa [List.eq_of_mem_replicate hd]

/-- Of several pairs the outermost is hidden, and the others are text. -/
theorem pieces_bracketed {s : List Char} (hs : IsUnbracketed s)
    (hquoted : quotedAfter false false s = false) (hescaped : endsEscaped false s = false)
    {seps : List (List Char)} (hne : ∀ sep ∈ seps, sep ≠ [])
    (hheads : ∀ sep ∈ seps, sep.head? ≠ some ')') (n : Nat) :
    pieces seps .start false (bracketed (n + 1) s) =
      .hidden '(' :: ((List.replicate n '(').map .text ++ (pieces [] .start false s ++
        .hidden ')' :: (List.replicate n ')').map .text)) := by
  have hhides : Mode.start.after? false '(' = some ⟨false, true⟩ := rfl
  have hends : Mode.after? ⟨false, true⟩ false ')' = some .start := rfl
  have hopening : Mode.IsText seps ⟨false, true⟩ '(' :=
    ⟨fun escaped => by cases escaped <;> rfl, fun hopen => by cases hopen⟩
  have hclosing : Mode.IsText seps .start ')' :=
    ⟨fun escaped => by cases escaped <;> rfl, fun _ => hheads⟩
  rw [bracketed, List.replicate_succ, List.cons_append, List.cons_append, List.append_assoc,
    List.replicate_succ, pieces_cons_hidden hhides,
    pieces_append_of_passes (passes_replicate hne hopening n _), endsEscaped_opening,
    pieces_append_grouped hs, hquoted, hescaped, pieces_cons_hidden hends,
    pieces_of_passes (passes_replicate hne hclosing n [])]
  rfl

/-- What stands in brackets once more than the splitter takes off is not cut. -/
theorem split_bracketed {s : List Char} (hs : IsUnbracketed s)
    (hquoted : quotedAfter false false s = false) (hescaped : endsEscaped false s = false)
    {seps : List (List Char)} (hheads : ∀ sep ∈ orderSeparators seps, sep.head? ≠ some ')')
    (n : Nat) (keep : Bool) :
    split seps keep (bracketed (n + 2) s) = flush (bracketed n (shownText s)) := by
  have hwrapped := (isWrapped_bracketed_iff hs (n + 1)).2 ⟨hquoted, hescaped⟩
  have hpieces := pieces_bracketed hs hquoted hescaped
    (fun _ => ne_nil_of_mem_orderSeparators) hheads n
  have hshown : (pieces [] .start false s).flatMap (Piece.shown true) = shownText s := by
    have hall := flatMap_shown_pieces_nil (Nat.le_refl s.length)
    rwa [List.take_length] at hall
  have hmarks : ∀ sep, .mark sep ∉ pieces (orderSeparators seps) .start false
      (bracketed (n + 1) s) := by
    intro sep hsep
    rw [hpieces] at hsep
    simp only [List.mem_cons, List.mem_append, List.mem_map, reduceCtorEq, and_false, exists_false,
      false_or, or_false] at hsep
    exact absurd (mem_of_mark_mem_pieces hsep) List.not_mem_nil
  rw [split, stripBrackets_bracketed hwrapped, tokens_of_no_mark hmarks, hpieces]
  simp only [List.flatMap_cons, List.flatMap_append, flatMap_shown_text, hshown]
  rw [bracketed, List.append_assoc]
  rfl

theorem split_bracketed_one {s : List Char} (hs : IsUnbracketed s)
    (hquoted : quotedAfter false false s = false) (hescaped : endsEscaped false s = false)
    (seps : List (List Char)) (keep : Bool) :
    split seps keep (bracketed 1 s) = split seps keep s := by
  have hwrapped := (isWrapped_bracketed_iff hs 0).2 ⟨hquoted, hescaped⟩
  have hself : stripBrackets s = s :=
    stripBrackets_eq_self fun h => (hs _ (List.mem_of_mem_head? h)).1 rfl
  rw [split, split, stripBrackets_bracketed hwrapped, hself, bracketed_zero]

/-! ## Brackets around a query -/

theorem body_of_pair {q : List Char} (h : stripBrackets ('(' :: (q ++ [')'])) = q) :
    body ('(' :: (q ++ [')'])) = q := by
  have htrimmed : IsTrimmed ('(' :: (q ++ [')'])) := by
    refine ⟨fun c hc => ?_, fun c hc => ?_⟩
    · obtain rfl := Option.some.inj hc
      rfl
    · rw [← List.cons_append, List.getLast?_concat] at hc
      obtain rfl := Option.some.inj hc
      rfl
  rw [htrimmed.body, h]

theorem parse_eq_of_split {q u : List Char}
    (h : ∀ seps ∈ [[orMark], termMarks], ∀ keep,
      split seps keep (body q) = split seps keep (body u)) (now : Instant) :
    parse now q = parse now u := by
  have halts : alternatives q = alternatives u := h _ (by simp) true
  by_cases hmark : orMark ∈ alternatives q
  · rw [parse_of_mem hmark, parse_of_mem (halts ▸ hmark), halts]
  · rw [parse_of_not_mem hmark, parse_of_not_mem (halts ▸ hmark), h _ (by simp) false]

/-- A term or none asks one thing of single cards at most. -/
theorem condition_of_flush {now : Instant} {term : List Char} {p : Query}
    (h : ((Reading.sequence ((flush term).map (readTerm now))).map ofTerms).result = .ok p) :
    ∃ cs, p.condition = .all cs ∧ cs.length ≤ 1 := by
  obtain ⟨ts, hts, rfl⟩ := Reading.result_map_eq_ok_iff.1 h
  have hlen : ts.length ≤ 1 := by
    unfold flush at hts
    split at hts
    · obtain rfl : [] = ts := Except.ok.inj hts
      exact Nat.zero_le 1
    · cases hread : (readTerm now term).result with
      | error e =>
          rw [List.map_singleton, Reading.sequence_cons_error hread] at hts
          cases hts
      | ok t =>
          rw [List.map_singleton, Reading.result_sequence_cons_ok hread] at hts
          obtain rfl : [t] = ts := Except.ok.inj hts
          exact Nat.le_refl 1
  exact ⟨_, rfl, (List.length_filterMap_le _ _).trans hlen⟩

/-- A text that is not cut at marks between alternatives or blanks between terms. -/
def IsUncut (s : List Char) : Prop :=
  ∀ seps ∈ [[orMark], termMarks], ∀ keep, split seps keep s = flush (shownText s)

section Pair

variable {q : List Char} (hpair : stripBrackets ('(' :: (q ++ [')'])) = q)

include hpair

theorem split_body_of_pair {n : Nat} {s : List Char} (hq : q = bracketed (n + 2) s)
    (hs : IsUnbracketed s) :
    quotedAfter false false s = false ∧ endsEscaped false s = false ∧
      ∀ seps ∈ [[orMark], termMarks], ∀ keep,
        split seps keep (body ('(' :: (q ++ [')']))) = flush (bracketed n (shownText s)) := by
  have hwrapped := stripBrackets_pair_iff.1 hpair
  rw [hq, ← bracketed_succ] at hwrapped
  obtain ⟨hquoted, hescaped⟩ := (isWrapped_bracketed_iff hs (n + 2)).1 hwrapped
  have hheads : ∀ seps ∈ [[orMark], termMarks], ∀ sep ∈ orderSeparators seps,
      sep.head? ≠ some ')' := by
    simp only [List.forall_mem_cons, orderSeparators_orMark, orderSeparators_termMarks]
    decide
  refine ⟨hquoted, hescaped, fun seps hseps keep => ?_⟩
  rw [body_of_pair hpair, hq, split_bracketed hs hquoted hescaped (hheads seps hseps)]

theorem parse_pair_of_isUncut {s : List Char} (htrim : Text.trim q = q) (hq : q = bracketed 2 s)
    (hs : IsUnbracketed s) (huncut : IsUncut s) (now : Instant) :
    parse now ('(' :: (q ++ [')'])) = parse now q := by
  obtain ⟨hquoted, hescaped, hsplit⟩ := split_body_of_pair hpair hq hs
  have hwrapped := (isWrapped_bracketed_iff hs 1).2 ⟨hquoted, hescaped⟩
  refine parse_eq_of_split (fun seps hseps keep => ?_) now
  rw [hsplit seps hseps, body, htrim, hq, stripBrackets_bracketed hwrapped,
    split_bracketed_one hs hquoted hescaped, huncut seps hseps, bracketed_zero]

theorem parse_pair_of_layers {n : Nat} {s : List Char} (hq : q = bracketed (n + 2) s)
    (hs : IsUnbracketed s) (hmark : bracketed n (shownText s) ≠ orMark) (now : Instant) :
    parse now ('(' :: (q ++ [')'])) =
      (Reading.sequence ((flush (bracketed n (shownText s))).map (readTerm now))).map ofTerms := by
  obtain ⟨-, -, hsplit⟩ := split_body_of_pair hpair hq hs
  have halts : orMark ∉ alternatives ('(' :: (q ++ [')'])) := by
    rw [alternatives, hsplit _ (by simp), flush]
    split
    · exact List.not_mem_nil
    · exact fun hmem => hmark (List.mem_singleton.1 hmem).symm
  rw [parse_of_not_mem halts, hsplit _ (by simp)]

end Pair

/-- What a pair of brackets around a query changes. With at most one pair of its own the
query is read as before, and with two pairs around a single term too. In two pairs or more
of its own, what they enclose is read as one term, without its quotation marks and two of
the pairs, and asks one thing of single cards at most. -/
theorem brackets_around_query {q : List Char} (htrim : Text.trim q = q)
    (hpair : stripBrackets ('(' :: (q ++ [')'])) = q) (now : Instant) :
    (stripBrackets (stripBrackets q) = stripBrackets q →
      parse now ('(' :: (q ++ [')'])) = parse now q) ∧
    (∀ s, q = bracketed 2 s → IsUnbracketed s → IsUncut s →
      parse now ('(' :: (q ++ [')'])) = parse now q) ∧
    ∀ n s, q = bracketed (n + 2) s → IsUnbracketed s → bracketed n (shownText s) ≠ orMark →
      parse now ('(' :: (q ++ [')'])) =
          (Reading.sequence ((flush (bracketed n (shownText s))).map (readTerm now))).map ofTerms ∧
        ∀ p, (parse now ('(' :: (q ++ [')']))).result = .ok p →
          ∃ cs, p.condition = .all cs ∧ cs.length ≤ 1 := by
  refine ⟨fun honce => parse_eq_of_split (fun seps _ keep => ?_) now,
    fun s hq hs huncut => parse_pair_of_isUncut hpair htrim hq hs huncut now,
    fun n s hq hs hmark => ?_⟩
  · rw [body_of_pair hpair, body, htrim, split, split, honce]
  · have hparse := parse_pair_of_layers hpair hq hs hmark now
    exact ⟨hparse, fun p hp => condition_of_flush (hparse ▸ hp)⟩

/-- A second pair around alternatives and a third one around a word change nothing; a third
one around two words joins them. -/
theorem brackets_around_query_twice_and_thrice :
    Text.trim "(a OR b)".toList = "(a OR b)".toList ∧
    stripBrackets "((a OR b))".toList = "(a OR b)".toList ∧
    parse (.ofSeconds 0) "((a OR b))".toList = parse (.ofSeconds 0) "(a OR b)".toList ∧
    Text.trim "((a))".toList = "((a))".toList ∧
    stripBrackets "(((a)))".toList = "((a))".toList ∧
    parse (.ofSeconds 0) "(((a)))".toList = parse (.ofSeconds 0) "((a))".toList ∧
    Text.trim "((a b))".toList = "((a b))".toList ∧
    stripBrackets "(((a b)))".toList = "((a b))".toList ∧
    parse (.ofSeconds 0) "(((a b)))".toList =
      (Reading.sequence [readTerm (.ofSeconds 0) "a b".toList]).map ofTerms := by
  have htrim₁ : Text.trim "(a OR b)".toList = "(a OR b)".toList := by decide
  have hpair₁ : stripBrackets "((a OR b))".toList = "(a OR b)".toList := by decide
  have htrim₂ : Text.trim "((a))".toList = "((a))".toList := by decide
  have hpair₂ : stripBrackets "(((a)))".toList = "((a))".toList := by decide
  have htrim₃ : Text.trim "((a b))".toList = "((a b))".toList := by decide
  have hpair₃ : stripBrackets "(((a b)))".toList = "((a b))".toList := by decide
  have huncut : IsUncut "a".toList := by
    have hshown : shownText "a".toList = "a".toList := by decide
    simp only [IsUncut, List.forall_mem_cons, hshown]
    refine ⟨fun keep => ?_, fun keep => ?_, nofun⟩ <;> cases keep <;> cbv
  obtain ⟨halternatives, -, -⟩ := brackets_around_query htrim₁ hpair₁ (.ofSeconds 0)
  obtain ⟨-, hword, -⟩ := brackets_around_query htrim₂ hpair₂ (.ofSeconds 0)
  obtain ⟨-, -, hwords⟩ := brackets_around_query htrim₃ hpair₃ (.ofSeconds 0)
  exact ⟨htrim₁, hpair₁, halternatives (by decide), htrim₂, hpair₂,
    hword _ rfl (by simp [IsUnbracketed]) huncut, htrim₃, hpair₃,
    (hwords 0 "a b".toList rfl (by simp [IsUnbracketed]) (by decide)).1⟩

/-- Two words are asked for in two pairs of brackets, and a text of two words in three. -/
theorem third_pair_joins_terms :
    Text.trim "((a b))".toList = "((a b))".toList ∧
    stripBrackets "(((a b)))".toList = "((a b))".toList ∧
    (parse (.ofSeconds 0) "(((a b)))".toList).result ≠
      (parse (.ofSeconds 0) "((a b))".toList).result := by
  have htwo : (parse (.ofSeconds 0) "((a b))".toList).result =
      .ok { condition := .all [anyOf ['a'], anyOf ['b']] } := by cbv
  have hthree : (parse (.ofSeconds 0) "(((a b)))".toList).result =
      .ok { condition := .all [anyOf ['a', ' ', 'b']] } := by cbv
  refine ⟨by decide, by decide, fun h => ?_⟩
  rw [htwo, hthree] at h
  cases h

end CardSearch.Query
