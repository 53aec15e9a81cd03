import CardSearch.Proofs.Tokens

/-!
# What splitting keeps of a text

The tokens of a text are the text without its quotation marks and the brackets of
its groups. Which marks these are can be told from the text, whatever it is split
at: a mark counts unless a backslash stands before it, a place is quoted after an
odd number of quotation marks, and it is grouped if the last bracket before it that
is neither escaped nor quoted is an opening one. `placeMode_eq_after` says that
this is where the scan stands.

Separators without such marks leave the mode as it is. The scan can therefore be
cut after any of its pieces, and what the pieces before the cut show is what a scan
without any separators shows of the same characters (`pieces_cut`).
-/

namespace CardSearch.Query

/-! ## Marks and places -/

/-- Whether a backslash stands right before a place. -/
def isShieldedAt (s : List Char) (n : Nat) : Bool := (s.take n).getLast? == some '\\'

/-- Whether a mark stands at a place and counts. -/
def isMarkAt (s : List Char) (n : Nat) (c : Char) : Bool := s[n]? == some c && !isShieldedAt s n

/-- Whether a place comes after an odd number of quotation marks. -/
def isQuotedAt (s : List Char) (n : Nat) : Bool :=
  (List.range n).countP (isMarkAt s · '"') % 2 == 1

/-- Whether a bracket outside quoted text stands at a place. -/
def isBracketAt (s : List Char) (n : Nat) (c : Char) : Bool := isMarkAt s n c && !isQuotedAt s n

/-- Whether a bracket has been opened before a place and not been closed since. -/
def isGroupedAt (s : List Char) (n : Nat) : Bool :=
  decide (∃ i < n, isBracketAt s i '(' = true ∧ ∀ j < n, i < j → isBracketAt s j ')' = false)

/-- Whether a place holds a quotation mark, or a bracket that begins or ends a group. -/
def isHiddenAt (s : List Char) (n : Nat) : Bool :=
  isMarkAt s n '"' || (isBracketAt s n '(' && !isGroupedAt s n) ||
    (isBracketAt s n ')' && isGroupedAt s n)

/-- The text up to a place without its hidden marks. -/
def shownBefore (s : List Char) (n : Nat) : List Char :=
  ((List.range n).filter fun i => !isHiddenAt s i).filterMap fun i => s[i]?

/-- The text without its hidden marks. -/
def shownText (s : List Char) : List Char := shownBefore s s.length

/-- A place outside quoted text and groups, without a backslash before it. -/
structure IsOpenAt (s : List Char) (n : Nat) : Prop where
  unquoted : isQuotedAt s n = false
  ungrouped : isGroupedAt s n = false
  unshielded : isShieldedAt s n = false

/-- The mode in which a place is read. -/
def placeMode (s : List Char) (n : Nat) : Mode := ⟨isQuotedAt s n, isGroupedAt s n⟩

theorem isQuotedAt_succ (s : List Char) (n : Nat) :
    isQuotedAt s (n + 1) = (isQuotedAt s n != isMarkAt s n '"') := by
  unfold isQuotedAt
  rw [List.range_succ, List.countP_append, List.countP_singleton]
  cases isMarkAt s n '"' with
  | false => simp
  | true =>
      rcases Nat.mod_two_eq_zero_or_one ((List.range n).countP (isMarkAt s · '"')) with h | h
      · simp [Nat.add_mod, h]
      · simp [Nat.add_mod, h]

theorem isGroupedAt_succ (s : List Char) (n : Nat) :
    isGroupedAt s (n + 1) =
      (isBracketAt s n '(' || (isGroupedAt s n && !isBracketAt s n ')')) := by
  unfold isGroupedAt
  rw [Bool.eq_iff_iff, decide_eq_true_iff, Bool.or_eq_true, Bool.and_eq_true, decide_eq_true_iff,
    Bool.not_eq_true']
  -- The opening bracket is the one at `n`, or an earlier one that `n` does not close.
  constructor
  · rintro ⟨i, hi, hopens, hstays⟩
    rcases Nat.lt_or_eq_of_le (Nat.le_of_lt_succ hi) with hlt | rfl
    · refine Or.inr ⟨⟨i, hlt, hopens, fun j hj hij => ?_⟩, hstays n (Nat.lt_succ_self n) hlt⟩
      exact hstays j (Nat.lt_succ_of_lt hj) hij
    · exact Or.inl hopens
  · rintro (hopens | ⟨⟨i, hi, hopens, hstays⟩, hcloses⟩)
    · exact ⟨n, Nat.lt_succ_self n, hopens, fun j hj hij => by omega⟩
    · refine ⟨i, Nat.lt_succ_of_lt hi, hopens, fun j hj hij => ?_⟩
      rcases Nat.lt_or_eq_of_le (Nat.le_of_lt_succ hj) with hlt | rfl
      · exact hstays j hlt hij
      · exact hcloses

theorem shownBefore_succ {s : List Char} {n : Nat} {c : Char} (hc : s[n]? = some c) :
    shownBefore s (n + 1) = shownBefore s n ++ if isHiddenAt s n then [] else [c] := by
  unfold shownBefore
  rw [List.range_succ, List.filter_append, List.filterMap_append]
  cases h : isHiddenAt s n with
  | true => simp [h]
  | false => simp [h, hc]

/-! ## Where the scan stands -/

/-- The scan meets a hidden mark where one stands. -/
theorem after?_placeMode {s : List Char} {n : Nat} {c : Char} (hc : s[n]? = some c) :
    (placeMode s n).after? (isShieldedAt s n) c =
      if isHiddenAt s n then some (placeMode s (n + 1)) else none := by
  have hmark : ∀ d, isMarkAt s n d = (c == d && !isShieldedAt s n) := fun d => by
    rw [isMarkAt, hc]
    rfl
  unfold Mode.after? Mode.isOpen placeMode isHiddenAt
  rw [isQuotedAt_succ, isGroupedAt_succ]
  unfold isBracketAt
  simp only [hmark]
  -- From here on the place matters only through these three and its character.
  generalize isShieldedAt s n = shielded
  generalize isQuotedAt s n = quoted
  generalize isGroupedAt s n = grouped
  cases shielded with
  | true => simp
  | false =>
      by_cases hquote : c = '"'
      · subst hquote
        simp
      · by_cases hopening : c = '('
        · subst hopening
          cases quoted <;> cases grouped <;> simp
        · by_cases hclosing : c = ')'
          · subst hclosing
            cases quoted <;> cases grouped <;> simp
          · simp [hquote, hopening, hclosing]

theorem placeMode_succ_of_shown {s : List Char} {n : Nat} (h : isHiddenAt s n = false) :
    placeMode s (n + 1) = placeMode s n := by
  unfold placeMode
  rw [isQuotedAt_succ, isGroupedAt_succ]
  unfold isHiddenAt at h
  cases hquote : isMarkAt s n '"' <;> cases hgroup : isGroupedAt s n <;>
    simp_all

theorem Mode.after_append (m : Mode) (escaped : Bool) (s t : List Char) :
    m.after escaped (s ++ t) = (m.after escaped s).after (endsEscaped escaped s) t := by
  induction s generalizing m escaped with
  | nil => rfl
  | cons c s ih => exact ih _ _

theorem endsEscaped_append (escaped : Bool) (s t : List Char) :
    endsEscaped escaped (s ++ t) = endsEscaped (endsEscaped escaped s) t := by
  induction s generalizing escaped with
  | nil => rfl
  | cons c s ih => exact ih _

theorem endsEscaped_eq_getLast? {escaped : Bool} {s : List Char} (h : s ≠ []) :
    endsEscaped escaped s = (s.getLast? == some '\\') := by
  obtain ⟨before, c, hs⟩ := (List.eq_nil_or_concat s).resolve_left h
  rw [List.concat_eq_append] at hs
  rw [hs, endsEscaped_append, List.getLast?_concat]
  rfl

theorem isShieldedAt_eq_endsEscaped (s : List Char) (n : Nat) :
    isShieldedAt s n = endsEscaped false (s.take n) := by
  unfold isShieldedAt
  by_cases h : s.take n = []
  · rw [h]
    rfl
  · exact (endsEscaped_eq_getLast? h).symm

theorem placeMode_eq_after {s : List Char} {n : Nat} (hn : n ≤ s.length) :
    placeMode s n = Mode.start.after false (s.take n) := by
  induction n with
  | zero => rw [List.take_zero]; rfl
  | succ n ih =>
      have hlt : n < s.length := hn
      have hc : s[n]? = some s[n] := List.getElem?_eq_getElem hlt
      rw [List.take_succ_eq_append_getElem hlt, Mode.after_append, ← ih (Nat.le_of_lt hlt),
        ← isShieldedAt_eq_endsEscaped, Mode.after, Mode.after, after?_placeMode hc]
      cases h : isHiddenAt s n with
      | true => rfl
      | false => exact placeMode_succ_of_shown h

/-! ## The scan without separators -/

theorem pieces_singleton (m : Mode) (escaped : Bool) (c : Char) :
    pieces [] m escaped [c] = if (m.after? escaped c).isSome then [.hidden c] else [.text c] := by
  cases hm : m.after? escaped c with
  | some m' =>
      rw [pieces_cons_hidden hm, pieces_nil]
      rfl
  | none =>
      have hsep : separatorIn? [] m escaped [c] = none := by
        unfold separatorIn?
        split <;> rfl
      rw [pieces_cons_text hm hsep, pieces_nil]
      rfl

/-- Without separators the pieces up to a place show all but the hidden marks. -/
theorem flatMap_shown_pieces_nil {s : List Char} {n : Nat} (hn : n ≤ s.length) :
    (pieces [] .start false (s.take n)).flatMap (Piece.shown true) = shownBefore s n := by
  induction n with
  | zero => rw [List.take_zero, pieces_nil]; rfl
  | succ n ih =>
      have hlt : n < s.length := hn
      have hc : s[n]? = some s[n] := List.getElem?_eq_getElem hlt
      have hsingle : ∀ sep ∈ ([] : List (List Char)), sep.length = 1 := fun sep hsep => nomatch hsep
      rw [List.take_succ_eq_append_getElem hlt, pieces_append hsingle, List.flatMap_append,
        ih (Nat.le_of_lt hlt), shownBefore_succ hc, ← placeMode_eq_after (Nat.le_of_lt hlt),
        ← isShieldedAt_eq_endsEscaped, pieces_singleton, after?_placeMode hc]
      cases h : isHiddenAt s n with
      | true => rfl
      | false => rfl

/-! ## Cutting after a piece -/

theorem Mode.after_of_isPlain {s : List Char} (h : ∀ c ∈ s, isPlain c = true) (m : Mode)
    (escaped : Bool) : m.after escaped s = m := by
  induction s generalizing escaped with
  | nil => rfl
  | cons c s ih =>
      rw [Mode.after, after?_of_isPlain (h c List.mem_cons_self)]
      exact ih (fun d hd => h d (List.mem_cons_of_mem c hd)) _

theorem passes_of_isPlain {s : List Char} (h : ∀ c ∈ s, isPlain c = true) (m : Mode)
    (escaped : Bool) (rest : List Char) : Passes [] m rest escaped s := by
  have hnone : ∀ {P : List Char → Prop}, ∀ sep ∈ ([] : List (List Char)), P sep :=
    fun sep hsep => (nomatch hsep)
  exact passes_of_isText hnone (fun c hc => ⟨after?_of_isPlain (h c hc) m, fun _ => hnone⟩) rest

theorem flatMap_shown_text (s : List Char) :
    (s.map Piece.text).flatMap (Piece.shown true) = s := by
  induction s with
  | nil => rfl
  | cons c s ih => rw [List.map_cons, List.flatMap_cons, ih]; rfl

section Cut

variable {seps : List (List Char)}
  (hseps : ∀ sep ∈ seps, sep ≠ [] ∧ ∀ c ∈ sep, isPlain c = true)
include hseps

/-- The first piece shows what a scan of it without separators shows, and that scan
ends where the rest is read on. -/
theorem pieces_step (m : Mode) (escaped : Bool) (c : Char) (rest : List Char) :
    ∃ p : Piece,
      pieces seps m escaped (c :: rest) =
        p :: pieces seps (m.after escaped p.chars) (endsEscaped escaped p.chars)
          ((c :: rest).drop p.chars.length) ∧
      (pieces [] m escaped p.chars).flatMap (Piece.shown true) = p.shown true := by
  cases hm : m.after? escaped c with
  | some m' =>
      refine ⟨.hidden c, ?_, ?_⟩
      · rw [pieces_cons_hidden hm, Piece.chars, Mode.after, Mode.after, endsEscaped, endsEscaped,
          hm, Mode.ne_backslash_of_after? hm]
        rfl
      · rw [Piece.chars, pieces_singleton, hm]
        rfl
  | none =>
      cases hsep : separatorIn? seps m escaped (c :: rest) with
      | none =>
          refine ⟨.text c, ?_, ?_⟩
          · rw [pieces_cons_text hm hsep, Piece.chars, Mode.after, Mode.after, endsEscaped,
              endsEscaped, hm]
            rfl
          · rw [Piece.chars, pieces_singleton, hm]
            rfl
      | some sep =>
          -- As it has no marks, a separator is plain text where none is looked for.
          obtain ⟨hne, hplain⟩ := hseps sep (mem_of_separatorIn?_eq_some hsep)
          obtain ⟨d, more, rfl⟩ := List.exists_cons_of_ne_nil hne
          refine ⟨.mark (d :: more), ?_, ?_⟩
          · rw [pieces_cons_mark hm hsep, Piece.chars, Mode.after_of_isPlain hplain,
              endsEscaped_eq_getLast? hne]
            rfl
          · rw [Piece.chars, pieces_of_passes (passes_of_isPlain hplain m escaped []),
              flatMap_shown_text]
            rfl

/-- The pieces before a cut show what a scan without separators shows of their
characters, and those after it are read on from where that scan ends. -/
theorem pieces_cut {m : Mode} {escaped : Bool} {s : List Char} {before after : List Piece}
    (h : pieces seps m escaped s = before ++ after) :
    before.flatMap (Piece.shown true) =
        (pieces [] m escaped (before.flatMap Piece.chars)).flatMap (Piece.shown true) ∧
      after = pieces seps (m.after escaped (before.flatMap Piece.chars))
        (endsEscaped escaped (before.flatMap Piece.chars))
        (s.drop (before.flatMap Piece.chars).length) := by
  have hsingle : ∀ sep ∈ ([] : List (List Char)), sep.length = 1 := fun sep hsep => (nomatch hsep)
  induction before generalizing m escaped s with
  | nil =>
      rw [List.flatMap_nil, List.flatMap_nil, pieces_nil]
      exact ⟨rfl, h.symm⟩
  | cons p before ih =>
      cases s with
      | nil => simp at h
      | cons c rest =>
          obtain ⟨q, hq, hshown⟩ := pieces_step hseps m escaped c rest
          obtain ⟨rfl, hrest⟩ := List.cons.inj (hq.symm.trans h)
          obtain ⟨hbefore, hafter⟩ := ih hrest
          rw [List.flatMap_cons, List.flatMap_cons, pieces_append hsingle, List.flatMap_append,
            hshown, ← hbefore, Mode.after_append, endsEscaped_append, List.length_append,
            ← List.drop_drop]
          exact ⟨rfl, hafter⟩

omit hseps in
theorem separatorIn?_of_pieces_eq {m : Mode} {escaped : Bool} {s sep : List Char}
    {after : List Piece} (h : pieces seps m escaped s = .mark sep :: after) :
    separatorIn? seps m escaped s = some sep := by
  cases s with
  | nil => simp at h
  | cons c rest =>
      cases hm : m.after? escaped c with
      | some m' =>
          rw [pieces_cons_hidden hm] at h
          cases h
      | none =>
          cases hsep : separatorIn? seps m escaped (c :: rest) with
          | none =>
              rw [pieces_cons_text hm hsep] at h
              cases h
          | some sep' =>
              rw [pieces_cons_mark hm hsep] at h
              obtain ⟨heq, -⟩ := List.cons.inj h
              rw [Piece.mark.inj heq]

/-- A separator is found in the open, where as much is shown as the pieces before it show. -/
theorem isOpenAt_of_pieces_eq {s sep : List Char} {before after : List Piece}
    (h : pieces seps .start false s = before ++ .mark sep :: after) :
    ∃ n, shownBefore s n = before.flatMap (Piece.shown true) ∧ IsOpenAt s n ∧
      separatorAt? seps (s.drop n) = some sep := by
  obtain ⟨hshown, hafter⟩ := pieces_cut hseps h
  have hchars := flatMap_chars_pieces (fun sep hsep => (hseps sep hsep).1) .start false s
  rw [h, List.flatMap_append] at hchars
  have hn : (before.flatMap Piece.chars).length ≤ s.length := by
    rw [← hchars, List.length_append]
    exact Nat.le_add_right _ _
  have htake : s.take (before.flatMap Piece.chars).length = before.flatMap Piece.chars := by
    rw [← hchars, List.take_left]
  refine ⟨(before.flatMap Piece.chars).length, ?_, ?_⟩
  · rw [hshown, ← flatMap_shown_pieces_nil hn, htake]
  · have hsep := separatorIn?_of_pieces_eq hafter.symm
    rw [← htake, ← placeMode_eq_after (htake ▸ hn), ← isShieldedAt_eq_endsEscaped, htake] at hsep
    unfold separatorIn? at hsep
    split at hsep
    · next hopen =>
        simp only [Mode.isOpen, placeMode, Bool.and_eq_true, Bool.not_eq_true'] at hopen
        exact ⟨⟨hopen.1.1, hopen.1.2, hopen.2⟩, hsep⟩
    · cases hsep

end Cut

/-! ## Separators among the tokens -/

theorem standsAt_of_push {c : Char} {ts : List Token} {n : Nat} {t : Token}
    (h : StandsAt (Token.push c ts) n t) (hmark : t.isMark = true) :
    ∃ k, n = k + 1 ∧ StandsAt ts k t := by
  cases ts with
  | nil =>
      rcases standsAt_cons.1 h with ⟨-, rfl⟩ | ⟨k, -, hlater⟩
      · cases hmark
      · exact absurd hlater not_standsAt_nil
  | cons u ts =>
      rw [Token.push] at h
      split at h
      · rcases standsAt_cons.1 h with ⟨-, rfl⟩ | ⟨k, rfl, hlater⟩
        · cases hmark
        · exact ⟨k, Nat.add_comm _ _, hlater⟩
      · rcases standsAt_cons.1 h with ⟨-, rfl⟩ | ⟨k, rfl, hlater⟩
        · cases hmark
        · refine ⟨u.chars.length + k, ?_, standsAt_cons.2 (Or.inr ⟨k, rfl, hlater⟩)⟩
          rw [List.length_cons]
          omega

/-- A separator token comes from a separator that the scan has found, and the
characters before it are those that the pieces before it show. -/
theorem exists_pieces_eq_of_standsAt {ps : List Piece} {n : Nat} {t : Token}
    (h : StandsAt (labelledPieces ps) n t) (hmark : t.isMark = true) :
    ∃ before after, ps = before ++ .mark t.chars :: after ∧
      (before.flatMap (Piece.shown true)).length = n := by
  induction ps generalizing n with
  | nil => exact absurd h not_standsAt_nil
  | cons p ps ih =>
      cases p with
      | text c =>
          obtain ⟨k, rfl, hrest⟩ := standsAt_of_push h hmark
          obtain ⟨before, after, rfl, rfl⟩ := ih hrest
          exact ⟨.text c :: before, after, rfl, rfl⟩
      | hidden c =>
          obtain ⟨before, after, rfl, rfl⟩ := ih h
          exact ⟨.hidden c :: before, after, rfl, rfl⟩
      | mark sep =>
          have hlater : ∀ {k}, StandsAt (labelledPieces ps) k t → n = sep.length + k →
              ∃ before after, Piece.mark sep :: ps = before ++ .mark t.chars :: after ∧
                (before.flatMap (Piece.shown true)).length = n := by
            rintro k hk rfl
            obtain ⟨before, after, rfl, rfl⟩ := ih hk
            refine ⟨.mark sep :: before, after, rfl, ?_⟩
            rw [List.flatMap_cons, List.length_append]
            rfl
          -- An empty separator makes no token, and the token in question comes later.
          rw [labelledPieces, Token.ofMark] at h
          split at h
          · next hnil => exact hlater h (by rw [hnil, List.length_nil, Nat.zero_add])
          · rcases standsAt_cons.1 h with ⟨rfl, rfl⟩ | ⟨k, hn, hrest⟩
            · exact ⟨[], ps, rfl, rfl⟩
            · exact hlater hrest hn

/-! ## What is kept -/

theorem isPlain_of_mem_orderSeparators {seps : List (List Char)}
    (hseps : ∀ sep ∈ seps, ∀ c ∈ sep, c ≠ '"' ∧ c ≠ '(' ∧ c ≠ ')') :
    ∀ sep ∈ orderSeparators seps, sep ≠ [] ∧ ∀ c ∈ sep, isPlain c = true := by
  intro sep hsep
  obtain ⟨hmem, hne⟩ := mem_orderSeparators.1 hsep
  exact ⟨hne, fun c hc => by simpa [isPlain, and_assoc] using hseps sep hmem c hc⟩

theorem flatten_split_eq_shownText {seps : List (List Char)}
    (hseps : ∀ sep ∈ seps, ∀ c ∈ sep, c ≠ '"' ∧ c ≠ '(' ∧ c ≠ ')') (s : List Char) :
    (split seps true s).flatten = shownText (stripBrackets s) := by
  have hplain := isPlain_of_mem_orderSeparators hseps
  have hchars := flatMap_chars_pieces (fun sep hsep => (hplain sep hsep).1) .start false
    (stripBrackets s)
  obtain ⟨hshown, -⟩ := pieces_cut hplain (List.append_nil _).symm
  rw [split, flatten_tokens, hshown, hchars]
  have hall := flatMap_shown_pieces_nil (Nat.le_refl (stripBrackets s).length)
  rwa [List.take_length] at hall

/-- Splitting at separators without quotation marks and brackets loses the hidden
marks of a text and nothing else. No token is empty; the tokens, kept separators
among them, make up the text without its hidden marks; and where separators are
not kept, it is the separator tokens that are missing, each of which stands for a
separator that was found in the open, longest first. -/
theorem split_keeps_text {seps : List (List Char)}
    (hseps : ∀ sep ∈ seps, ∀ c ∈ sep, c ≠ '"' ∧ c ≠ '(' ∧ c ≠ ')') (s : List Char) :
    (∀ keep, ∀ token ∈ split seps keep s, token ≠ []) ∧
      (split seps true s).flatten = shownText (stripBrackets s) ∧
      split seps true s = (labelled seps s).map Token.chars ∧
      split seps false s = ((labelled seps s).filter fun t => !t.isMark).map Token.chars ∧
      ∀ k t, StandsAt (labelled seps s) k t → t.isMark = true →
        ∃ n, (shownBefore (stripBrackets s) n).length = k ∧ IsOpenAt (stripBrackets s) n ∧
          IsLongestAt seps t.chars ((stripBrackets s).drop n) := by
  refine ⟨fun keep token htoken => ?_, flatten_split_eq_shownText hseps s,
    split_true_eq_labelled seps s, split_eq_labelled seps false s, fun k t hstands hmark => ?_⟩
  · rw [split_eq_labelled] at htoken
    obtain ⟨t, -, rfl⟩ := List.mem_map.1 htoken
    exact t.chars_ne_nil
  · obtain ⟨before, after, hpieces, rfl⟩ := exists_pieces_eq_of_standsAt hstands hmark
    obtain ⟨n, hshown, hopen, hsep⟩ :=
      isOpenAt_of_pieces_eq (isPlain_of_mem_orderSeparators hseps) hpieces
    exact ⟨n, by rw [hshown], hopen, isLongestAt_of_separatorAt? hsep⟩

/-- A quoted blank stays where blanks are dropped, and an escaped quotation mark is text. -/
theorem split_keeps_text_quoted_blank :
    (∀ sep ∈ [[' ']], ∀ c ∈ sep, c ≠ '"' ∧ c ≠ '(' ∧ c ≠ ')') ∧
      (split [[' ']] true "\" \" (a b)\\\"".toList).flatten = "  a b\\\"".toList ∧
      split [[' ']] false "\" \" (a b)\\\"".toList = [" ".toList, "a b\\\"".toList] := by
  have hseps : ∀ sep ∈ [[' ']], ∀ c ∈ sep, c ≠ '"' ∧ c ≠ '(' ∧ c ≠ ')' := by simp
  obtain ⟨-, hshown, -, hdropped, -⟩ := split_keeps_text hseps "\" \" (a b)\\\"".toList
  have htext : shownText (stripBrackets "\" \" (a b)\\\"".toList) = "  a b\\\"".toList := by decide
  have hlabelled : labelled [[' ']] "\" \" (a b)\\\"".toList =
      [⟨[' '], false, by decide⟩, ⟨[' '], true, by decide⟩,
        ⟨"a b\\\"".toList, false, by decide⟩] := by
    cbv
  exact ⟨hseps, hshown.trans htext, by rw [hdropped, hlabelled]; rfl⟩

end CardSearch.Query
