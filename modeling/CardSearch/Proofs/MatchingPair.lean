import CardSearch.Proofs.KeptText

/-!
# Brackets that match

A pair of brackets around a text is taken off when the two match, which is a matter of the
text alone: its brackets are balanced, and it ends where a closing bracket counts
(`IsBalanced`). Brackets that are quoted or escaped have no part in this.

The scan that looks for such a pair goes from left to right and keeps how many brackets are
open. Inside the pair this is one more than the text has opened so far and not closed
(`openBefore`), and the scan gives up where a bracket is closed that the text has not opened.
So one step of the scan asks of one place what balance asks of it (`closesAtEnd_place`), and
the whole scan asks it of all places.
-/

namespace CardSearch.Query

/-- How many brackets of a kind count before a place. -/
def bracketsBefore (s : List Char) (c : Char) (n : Nat) : Nat :=
  (List.range n).countP (isBracketAt s · c)

/-- How many brackets are open at a place. -/
def openBefore (s : List Char) (n : Nat) : Nat := bracketsBefore s '(' n - bracketsBefore s ')' n

/-- A text whose brackets match each other, and which does not shield or quote what follows. -/
structure IsBalanced (s : List Char) : Prop where
  unshielded : s.getLast? ≠ some '\\'
  unquoted : isQuotedAt s s.length = false
  /-- No bracket is closed before it is opened. -/
  covered : ∀ n ≤ s.length, bracketsBefore s ')' n ≤ bracketsBefore s '(' n
  closed : bracketsBefore s '(' s.length = bracketsBefore s ')' s.length

theorem bracketsBefore_succ (s : List Char) (c : Char) (n : Nat) :
    bracketsBefore s c (n + 1) = bracketsBefore s c n + if isBracketAt s n c then 1 else 0 := by
  rw [bracketsBefore, List.range_succ, List.countP_append, List.countP_singleton]
  rfl

theorem isShieldedAt_succ {s : List Char} {n : Nat} {c : Char} (hc : s[n]? = some c) :
    isShieldedAt s (n + 1) = (c == '\\') := by
  obtain ⟨hlt, rfl⟩ := List.getElem?_eq_some_iff.1 hc
  rw [isShieldedAt, List.take_succ_eq_append_getElem hlt, List.getLast?_concat]
  rfl

theorem isShieldedAt_length (s : List Char) :
    isShieldedAt s s.length = (s.getLast? == some '\\') := by
  rw [isShieldedAt, List.take_length]

/-! ## The scan along the text -/

/-- One step of the scan goes on where the text has opened what it has closed so far. -/
theorem closesAtEnd_place {s rest : List Char} {n : Nat} {c : Char} (hc : s[n]? = some c)
    (hrest : rest ≠ []) (hcovered : bracketsBefore s ')' n ≤ bracketsBefore s '(' n) :
    closesAtEnd (isQuotedAt s n) (isShieldedAt s n) (openBefore s n + 1) (c :: rest) = true ↔
      bracketsBefore s ')' (n + 1) ≤ bracketsBefore s '(' (n + 1) ∧
        closesAtEnd (isQuotedAt s (n + 1)) (isShieldedAt s (n + 1)) (openBefore s (n + 1) + 1)
          rest = true := by
  have hmark : ∀ d, isMarkAt s n d = (c == d && !isShieldedAt s n) := fun d => by
    rw [isMarkAt, hc]
    rfl
  rw [openBefore, openBefore, isQuotedAt_succ, isShieldedAt_succ hc, bracketsBefore_succ,
    bracketsBefore_succ, closesAtEnd]
  unfold isBracketAt
  simp only [hmark]
  -- From here on the place matters only through these four and its character.
  generalize isShieldedAt s n = shielded
  generalize isQuotedAt s n = quoted
  generalize bracketsBefore s ')' n = closes at hcovered ⊢
  generalize bracketsBefore s '(' n = opens at hcovered ⊢
  cases shielded with
  | true => simp [hcovered]
  | false =>
      by_cases hquote : c = '"'
      · subst hquote
        simp [hcovered]
      · by_cases hopening : c = '('
        · subst hopening
          cases quoted with
          | true => simp [hcovered]
          | false =>
              have hdepth : opens + 1 - closes = opens - closes + 1 := Nat.sub_add_comm hcovered
              simp [hdepth, Nat.le_succ_of_le hcovered]
        · by_cases hclosing : c = ')'
          · subst hclosing
            cases quoted with
            | true => simp [hcovered]
            | false =>
                rcases Nat.lt_or_eq_of_le hcovered with hlt | rfl
                · have hdepth : opens - (closes + 1) + 1 = opens - closes := by omega
                  have hopen : ¬ opens ≤ closes := Nat.not_le_of_lt hlt
                  have hstays : closes + 1 ≤ opens := hlt
                  simp [hdepth, hopen, hstays, Nat.sub_eq_zero_iff_le]
                · simp [hrest]
          · simp [hquote, hopening, hclosing, hcovered, beq_eq_false_iff_ne.2 hquote]

/-- The scan of a text goes on to the bracket after it where all of the text is covered. -/
theorem closesAtEnd_drop {s : List Char} {n : Nat} (hn : n ≤ s.length)
    (hcovered : bracketsBefore s ')' n ≤ bracketsBefore s '(' n) :
    closesAtEnd (isQuotedAt s n) (isShieldedAt s n) (openBefore s n + 1)
        (s.drop n ++ [')']) = true ↔
      (∀ k ≤ s.length, n ≤ k → bracketsBefore s ')' k ≤ bracketsBefore s '(' k) ∧
        closesAtEnd (isQuotedAt s s.length) (isShieldedAt s s.length) (openBefore s s.length + 1)
          [')'] = true := by
  -- From the end of the text backwards, as the scan at a place is told by that at the next one.
  induction hn using Nat.decreasingInduction with
  | self =>
      rw [List.drop_length, List.nil_append]
      refine (and_iff_right fun k hk hnk => ?_).symm
      rwa [Nat.le_antisymm hk hnk]
  | of_succ n hlt ih =>
      rw [List.drop_eq_getElem_cons hlt, List.cons_append,
        closesAtEnd_place (List.getElem?_eq_getElem hlt) (by simp) hcovered]
      constructor
      · rintro ⟨hnext, hscan⟩
        obtain ⟨hlater, hend⟩ := (ih hnext).1 hscan
        refine ⟨fun k hk hnk => ?_, hend⟩
        rcases Nat.eq_or_lt_of_le hnk with rfl | hnk
        · exact hcovered
        · exact hlater k hk hnk
      · rintro ⟨hlater, hend⟩
        have hnext := hlater (n + 1) hlt (Nat.le_succ n)
        exact ⟨hnext, (ih hnext).2 ⟨fun k hk hnk => hlater k hk (Nat.le_of_succ_le hnk), hend⟩⟩

/-- The last bracket closes the first one where it counts and no other one is open. -/
theorem closesAtEnd_last (quoted shielded : Bool) (depth : Nat) :
    closesAtEnd quoted shielded (depth + 1) [')'] = true ↔
      shielded = false ∧ quoted = false ∧ depth = 0 := by
  cases shielded <;> cases quoted <;> simp [closesAtEnd]

/-! ## What is taken off -/

theorem isWrapped_pair (s : List Char) :
    isWrapped ('(' :: (s ++ [')'])) = closesAtEnd false false 0 ('(' :: (s ++ [')'])) := by
  rw [isWrapped, List.head?_cons, ← List.cons_append, List.getLast?_concat]
  simp

/-- Brackets around a text match when the text is balanced. -/
theorem isWrapped_pair_iff {s : List Char} :
    isWrapped ('(' :: (s ++ [')'])) = true ↔ IsBalanced s := by
  have hscan := closesAtEnd_drop (Nat.zero_le s.length) (Nat.le_refl 0)
  rw [closesAtEnd_last, isShieldedAt_length, beq_eq_false_iff_ne] at hscan
  rw [isWrapped_pair]
  refine hscan.trans ⟨?_, ?_⟩
  · rintro ⟨hcovered, hunshielded, hunquoted, hdepth⟩
    have hlast := hcovered s.length (Nat.le_refl _) (Nat.zero_le _)
    exact ⟨hunshielded, hunquoted, fun n hn => hcovered n hn (Nat.zero_le n),
      Nat.le_antisymm (Nat.sub_eq_zero_iff_le.1 hdepth) hlast⟩
  · rintro ⟨hunshielded, hunquoted, hcovered, hclosed⟩
    exact ⟨fun n hn _ => hcovered n hn, hunshielded, hunquoted,
      Nat.sub_eq_zero_of_le (Nat.le_of_eq hclosed)⟩

theorem eq_pair_of_isWrapped {s : List Char} (h : isWrapped s = true) :
    s = '(' :: (s.tail.dropLast ++ [')']) := by
  simp only [isWrapped, Bool.and_eq_true, decide_eq_true_iff, beq_iff_eq] at h
  obtain ⟨⟨⟨hlen, hhead⟩, hlast⟩, -⟩ := h
  obtain ⟨rest, rfl⟩ := List.head?_eq_some_iff.1 hhead
  have hne : rest ≠ [] := by
    rintro rfl
    exact absurd hlen (by decide)
  rw [List.getLast?_cons_of_ne_nil hne] at hlast
  rw [List.tail_cons, List.dropLast_append_getLast? ')' hlast]

theorem isWrapped_iff_exists_pair {s : List Char} :
    isWrapped s = true ↔ ∃ t, s = '(' :: (t ++ [')']) ∧ IsBalanced t := by
  constructor
  · intro h
    have hpair := eq_pair_of_isWrapped h
    exact ⟨_, hpair, isWrapped_pair_iff.1 (hpair ▸ h)⟩
  · rintro ⟨t, rfl, ht⟩
    exact isWrapped_pair_iff.2 ht

theorem length_stripBrackets_lt {s : List Char} (h : isWrapped s = true) :
    (stripBrackets s).length < s.length := by
  rw [stripBrackets, if_pos h, List.length_dropLast, List.length_tail]
  have hpair := congrArg List.length (eq_pair_of_isWrapped h)
  rw [List.length_cons] at hpair
  omega

theorem stripBrackets_eq_self_iff {s : List Char} :
    stripBrackets s = s ↔ isWrapped s = false := by
  rw [← Bool.not_eq_true]
  constructor
  · intro h hwrapped
    exact Nat.ne_of_lt (length_stripBrackets_lt hwrapped) (congrArg List.length h)
  · intro h
    rw [stripBrackets, if_neg h]

theorem stripBrackets_pair_iff {t : List Char} :
    stripBrackets ('(' :: (t ++ [')'])) = t ↔ isWrapped ('(' :: (t ++ [')'])) = true := by
  constructor
  · intro h
    by_contra hnot
    rw [stripBrackets_eq_self_iff.2 (Bool.eq_false_of_not_eq_true hnot)] at h
    have hlen := congrArg List.length h
    rw [List.length_cons, List.length_append] at hlen
    omega
  · intro h
    rw [stripBrackets, if_pos h, List.tail_cons, List.dropLast_concat]

/-- A pair of brackets around a text is taken off when the text is balanced, and a text
that is not a balanced one in brackets is left alone. -/
theorem matching_pair_taken_off (s : List Char) :
    (∀ t, s = '(' :: (t ++ [')']) ∧ stripBrackets s = t ↔ s = '(' :: (t ++ [')']) ∧ IsBalanced t) ∧
      (stripBrackets s = s ↔ ¬ ∃ t, s = '(' :: (t ++ [')']) ∧ IsBalanced t) := by
  constructor
  · intro t
    refine and_congr_right ?_
    rintro rfl
    exact stripBrackets_pair_iff.trans isWrapped_pair_iff
  · rw [stripBrackets_eq_self_iff, ← isWrapped_iff_exists_pair, Bool.not_eq_true]

-- A quoted and an escaped bracket need no partner; two groups in a row are no pair.
example :
    stripBrackets "(a (b) \")\" \\()".toList = "a (b) \")\" \\(".toList ∧
      stripBrackets "(a) OR (b)".toList = "(a) OR (b)".toList := by
  decide

end CardSearch.Query
