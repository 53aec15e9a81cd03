import CardSearch.Proofs.AcceptedPatterns
import CardSearch.Proofs.Negation
import CardSearch.Proofs.Tokens

/-!
# Which terms are accepted

A term is a word, or a field, an operator and a value. The reader counts the tokens
and looks at the middle one; what the tokens are is left to the scan. Here they are
told by the text: they are parts, of which each is a sign or free of signs, and no two
neighbours make up a part together (`split_eq_iff_areParts`). So a sign may stand
where a word, a field or a value is expected, as the text of it.

A term of the right shape is refused in one case, when a tilde asks for a pattern and
the value is none (`fieldTerm_ok_or_not_pattern`).
-/

namespace CardSearch.Query

open Text (isBlank)
open Time (Instant)

/-- A sign, or a text without signs that is not empty. -/
def IsPart (p : List Char) : Prop := p ∈ TermOp.signs ∨ p ≠ [] ∧ ∀ c ∈ p, [c] ∉ TermOp.signs

instance (p : List Char) : Decidable (IsPart p) :=
  decidable_of_iff (TermOp.signs.contains p = true ∨
      p ≠ [] ∧ p.all (fun c => !TermOp.signs.contains [c]) = true) (by simp [IsPart])

/-- The text is these parts in a row, none of them shorter than it could be. -/
structure AreParts (t : List Char) (ps : List (List Char)) : Prop where
  flatten : ps.flatten = t
  parts : ∀ p ∈ ps, IsPart p
  apart : ps.IsChain fun p q => ¬ IsPart (p ++ q)

/-- A word, or a field, an operator and a value. -/
def IsWellFormed (t : List Char) : Prop :=
  IsPart t ∨ ∃ (f : List Char) (op : TermOp) (v : List Char), AreParts t [f, op.sign, v]

/-- A term without blanks, marks that quote or group, backslashes and a minus before it. -/
structure IsPlainTerm (t : List Char) : Prop where
  ne_nil : t ≠ []
  unsigned : t.head? ≠ some '-'
  unblank : ∀ c ∈ t, isBlank c = false
  unmarked : ∀ c ∈ t, c ∉ ['"', '(', ')', '\\']

instance (t : List Char) : Decidable (IsPlainTerm t) :=
  decidable_of_iff (t ≠ [] ∧ t.head? ≠ some '-' ∧ t.all (!isBlank ·) = true ∧
      t.all (fun c => !(['"', '(', ')', '\\'].contains c)) = true)
    ⟨fun ⟨hne, hhead, hblank, hmark⟩ => ⟨hne, hhead, by simpa using hblank, by simpa using hmark⟩,
      fun h => ⟨h.ne_nil, h.unsigned, by simpa using h.unblank, by simpa using h.unmarked⟩⟩

/-! ## Signs and the characters they are made of -/

theorem TermOp.sign_mem_signs (op : TermOp) : op.sign ∈ signs := by cases op <;> decide

theorem TermOp.exists_of_mem_signs {s : List Char} (h : s ∈ signs) : ∃ op : TermOp, op.sign = s := by
  obtain ⟨op, -, hop⟩ := List.mem_map.1 h
  exact ⟨op, hop⟩

theorem singleton_mem_signs : ∀ s ∈ TermOp.signs, ∀ c ∈ s, [c] ∈ TermOp.signs := by
  simp [TermOp.signs, TermOp.all, TermOp.sign]

theorem ne_nil_of_mem_signs : ∀ s ∈ TermOp.signs, s ≠ [] := by decide

/-- A longer sign has an equals sign after the shorter one. -/
theorem eq_append_of_prefix_signs :
    ∀ s ∈ TermOp.signs, ∀ r ∈ TermOp.signs, s <+: r → r = s ∨ r = s ++ ['='] := by
  decide +kernel

theorem eq_equal_of_head_signs : ∀ s ∈ TermOp.signs, s.head? = some '=' → s = ['='] := by decide

theorem IsPart.ne_nil {p : List Char} (h : IsPart p) : p ≠ [] := by
  rcases h with hsign | ⟨hne, -⟩
  · exact ne_nil_of_mem_signs p hsign
  · exact hne

theorem IsPart.mem_signs {p : List Char} (h : IsPart p) {c : Char} (hc : c ∈ p)
    (hsign : [c] ∈ TermOp.signs) : p ∈ TermOp.signs := by
  rcases h with hp | ⟨-, hfree⟩
  · exact hp
  · exact absurd hsign (hfree c hc)

theorem IsPart.free {p : List Char} (h : IsPart p) {c : Char} (hc : c ∈ p)
    (hnone : [c] ∉ TermOp.signs) : ∀ d ∈ p, [d] ∉ TermOp.signs := by
  rcases h with hp | ⟨-, hfree⟩
  · exact absurd (singleton_mem_signs p hp c hc) hnone
  · exact hfree

/-- Two texts side by side are one, so what stands apart from a text is a sign. -/
theorem mem_signs_of_apart {p q : List Char} (hfree : ∀ c ∈ p, [c] ∉ TermOp.signs)
    (hq : IsPart q) (hapart : ¬ IsPart (p ++ q)) : q ∈ TermOp.signs := by
  rcases hq with hsign | ⟨hne, hfree'⟩
  · exact hsign
  · refine absurd (Or.inr ⟨by simp [hne], fun c hc => ?_⟩) hapart
    rcases List.mem_append.1 hc with hc | hc
    · exact hfree c hc
    · exact hfree' c hc

theorem isClearOf_signs {c : Char} (hc : [c] ∉ TermOp.signs) (s : List Char) :
    IsClearOf TermOp.signs (c :: s) := by
  rintro sep hsep hne ⟨rest, hrest⟩
  obtain ⟨d, sep, rfl⟩ := List.exists_cons_of_ne_nil hne
  obtain ⟨rfl, -⟩ := List.cons.inj hrest
  exact hc (singleton_mem_signs _ hsep d List.mem_cons_self)

/-! ## The tokens of a term are its parts -/

/-- A sign that stands before a part and makes up none with it is the longest at its place. -/
theorem isLongestAt_of_apart {s : List Char} {ps : List (List Char)} (hs : s ∈ TermOp.signs)
    (hparts : ∀ p ∈ ps, IsPart p) (hapart : ∀ p ∈ ps.head?, ¬ IsPart (s ++ p)) :
    IsLongestAt TermOp.signs s (s ++ ps.flatten) := by
  refine ⟨hs, List.prefix_append _ _, fun other hother hstarts => ?_⟩
  by_contra hlt
  rw [Nat.not_le] at hlt
  have hprefix : s <+: other :=
    List.prefix_of_prefix_length_le (List.prefix_append _ _) hstarts hlt.le
  rcases eq_append_of_prefix_signs s hs other hother hprefix with rfl | rfl
  · exact absurd hlt (lt_irrefl _)
  · -- The part after the sign begins with an equals sign, so it is that sign.
    have hequal : ['='] <+: ps.flatten := (List.prefix_append_right_inj s).1 hstarts
    cases ps with
    | nil => exact absurd (List.prefix_nil.1 hequal) (List.cons_ne_nil _ _)
    | cons p ps =>
        have hp := hparts p List.mem_cons_self
        obtain ⟨d, p, rfl⟩ := List.exists_cons_of_ne_nil hp.ne_nil
        obtain ⟨rest, hrest⟩ := hequal
        obtain ⟨rfl, -⟩ := List.cons.inj hrest
        have hsign := hp.mem_signs List.mem_cons_self (by decide)
        have hp' := eq_equal_of_head_signs _ hsign rfl
        rw [hp'] at hapart
        exact hapart _ rfl (Or.inl hother)

theorem exists_isTokenization {ps : List (List Char)} (hparts : ∀ p ∈ ps, IsPart p)
    (hapart : ps.IsChain fun p q => ¬ IsPart (p ++ q)) :
    ∃ ts, ts.map Token.chars = ps ∧ IsTokenization TermOp.signs ps.flatten ts ∧
      ∀ u ∈ ts, u.chars ∈ TermOp.signs → u.isMark = true := by
  induction ps with
  | nil => exact ⟨[], rfl, isTokenization_nil.2 rfl, fun u hu => (List.not_mem_nil hu).elim⟩
  | cons p ps ih =>
      obtain ⟨hhead, htail⟩ := List.isChain_cons.1 hapart
      have hlater : ∀ q ∈ ps, IsPart q := fun q hq => hparts q (List.mem_cons_of_mem p hq)
      obtain ⟨ts, hmap, htoken, hkinds⟩ := ih hlater htail
      rcases hparts p List.mem_cons_self with hsign | ⟨hne, hfree⟩
      · refine ⟨⟨p, true, ne_nil_of_mem_signs p hsign⟩ :: ts, by rw [List.map_cons, hmap], ?_, ?_⟩
        · rw [List.flatten_cons]
          exact htoken.cons_mark ⟨p, true, _⟩ rfl (isLongestAt_of_apart hsign hlater hhead)
        · intro u hu hmem
          rcases List.mem_cons.1 hu with rfl | hu
          · rfl
          · exact hkinds u hu hmem
      · refine ⟨⟨p, false, hne⟩ :: ts, by rw [List.map_cons, hmap], ?_, ?_⟩
        · rw [List.flatten_cons]
          refine htoken.cons_text (fun u hu => ?_) ⟨p, false, hne⟩ rfl fun i hi => ?_
          · have hnext : u.chars ∈ ps.head? := by
              rw [← hmap, List.head?_map]
              exact Option.mem_map_of_mem _ hu
            exact hkinds u (List.mem_of_mem_head? hu) (mem_signs_of_apart hfree
              (hlater _ (List.mem_of_mem_head? hnext)) (hhead _ hnext))
          · rw [List.drop_append_of_le_length hi.le, List.drop_eq_getElem_cons hi]
            exact isClearOf_signs (hfree _ (List.getElem_mem hi)) _
        · intro u hu hmem
          rcases List.mem_cons.1 hu with rfl | hu
          · obtain ⟨c, hc⟩ := List.exists_mem_of_ne_nil p hne
            exact absurd (singleton_mem_signs p hmem c hc) (hfree c hc)
          · exact hkinds u hu hmem

theorem IsTokenization.free {u : Token} {us : List Token} {s : List Char}
    (h : IsTokenization TermOp.signs (u.chars ++ s) (u :: us)) (hkind : u.isMark = false) :
    ∀ c ∈ u.chars, [c] ∉ TermOp.signs := by
  intro c hc hmem
  obtain ⟨i, hi, rfl⟩ := List.getElem_of_mem hc
  have hclear := ((isTokenization_cons.1 h).2.1 hkind).2 i hi
  rw [List.drop_append_of_le_length hi.le, List.drop_eq_getElem_cons hi] at hclear
  exact hclear _ hmem (List.cons_ne_nil _ _) ⟨_, rfl⟩

/-- Neighbours in a tokenization are no part together: a sign would be longer, and a text
would hold a sign. -/
theorem IsTokenization.not_isPart_append {u v : Token} {us : List Token} {s : List Char}
    (h : IsTokenization TermOp.signs (u.chars ++ (v.chars ++ s)) (u :: v :: us)) :
    ¬ IsPart (u.chars ++ v.chars) := by
  intro hjoined
  obtain ⟨hmark, htext, hrest⟩ := isTokenization_cons.1 h
  obtain ⟨c, hc⟩ := List.exists_mem_of_ne_nil _ u.chars_ne_nil
  obtain ⟨d, hd⟩ := List.exists_mem_of_ne_nil _ v.chars_ne_nil
  cases hkind : u.isMark with
  | true =>
      have hlongest := hmark hkind
      have hsign := hjoined.mem_signs (List.mem_append_left _ hc)
        (singleton_mem_signs _ hlongest.mem c hc)
      have hstarts : u.chars ++ v.chars <+: u.chars ++ (v.chars ++ s) :=
        (List.prefix_append_right_inj _).2 (List.prefix_append _ _)
      have hlen := hlongest.longest _ hsign hstarts
      have hpos := v.length_pos
      rw [List.length_append] at hlen
      omega
  | false =>
      have hvmark : v.isMark = true := (htext hkind).1 v rfl
      have hvsign := ((isTokenization_cons.1 hrest).1 hvmark).mem
      exact hjoined.free (List.mem_append_left _ hc) (h.free hkind c hc) d
        (List.mem_append_right _ hd) (singleton_mem_signs _ hvsign d hd)

theorem areParts_of_isTokenization {t : List Char} {ts : List Token}
    (h : IsTokenization TermOp.signs t ts) : AreParts t (ts.map Token.chars) := by
  induction ts generalizing t with
  | nil =>
      obtain rfl := isTokenization_nil.1 h
      exact ⟨rfl, fun p hp => (List.not_mem_nil hp).elim, .nil⟩
  | cons u us ih =>
      obtain ⟨rest, rfl⟩ : ∃ rest, t = u.chars ++ rest := ⟨_, h.flatMap_chars.symm⟩
      obtain ⟨hmark, -, hrest⟩ := isTokenization_cons.1 h
      have hlater := ih hrest
      refine ⟨?_, fun p hp => ?_, List.isChain_cons.2 ⟨fun q hq => ?_, hlater.apart⟩⟩
      · rw [List.map_cons, List.flatten_cons, hlater.flatten]
      · rcases List.mem_cons.1 hp with rfl | hp
        · cases hkind : u.isMark with
          | true => exact Or.inl (hmark hkind).mem
          | false => exact Or.inr ⟨u.chars_ne_nil, h.free hkind⟩
        · exact hlater.parts p hp
      · cases us with
        | nil => cases hq
        | cons v us =>
            obtain rfl := Option.some.inj hq
            obtain ⟨more, rfl⟩ : ∃ more, rest = v.chars ++ more := ⟨_, hrest.flatMap_chars.symm⟩
            exact h.not_isPart_append

theorem IsPlainTerm.unwrapped {t : List Char} (h : IsPlainTerm t) : stripBrackets t = t := by
  refine stripBrackets_eq_self fun hhead => ?_
  exact h.unmarked '(' (List.mem_of_mem_head? hhead) (by decide)

/-- The tokens of a plain term are the one row of parts that it is. -/
theorem split_eq_iff_areParts {t : List Char} (h : IsPlainTerm t) {ps : List (List Char)} :
    split TermOp.signs true t = ps ↔ AreParts t ps := by
  have hplain : ∀ c ∈ t, isPlain c = true ∧ c ≠ '\\' := by
    intro c hc
    simpa [isPlain, and_assoc] using h.unmarked c hc
  have hfound : IsTokenization TermOp.signs t (labelled TermOp.signs t) := by
    rw [labelled, h.unwrapped]
    exact isTokenization_pieces TermOp.signs hplain
  rw [split_true_eq_labelled]
  constructor
  · rintro rfl
    exact areParts_of_isTokenization hfound
  · intro hps
    obtain ⟨ts, rfl, hts, -⟩ := exists_isTokenization hps.parts hps.apart
    rw [hps.flatten] at hts
    rw [hfound.unique hts]

/-! ## What a term of three parts can be refused for -/

section Read

variable {now : Instant} {field value : String} {op : TermOp}

theorem compareValue_ok (h : op = .tilde → value ≠ nullName →
      (Pattern.ofString? (operandText now field value)).isSome = true) :
    ∃ c, (compareValue now field op value).result = .ok c := by
  by_cases hnull : value = nullName
  · exact ⟨_, by rw [compareValue, if_pos hnull]; rfl⟩
  · rw [compareValue, if_neg hnull]
    unfold compareText
    unfold operandText at h
    generalize (if instantFields.contains field then relativeInstant? now value else none) = instant
      at h ⊢
    cases op with
    | colon =>
        -- A colon before an instant compares, and turns into one of two other operators.
        by_cases hinstant : instant.isSome = true
        · by_cases hnext : field = "nextReview"
          · exact ⟨_, by simp only [hinstant, hnext, and_self, if_true]; rfl⟩
          · exact ⟨_, by simp only [hinstant, hnext, and_self, if_true, if_false]; rfl⟩
        · exact ⟨_, by simp only [hinstant]; rfl⟩
    | tilde =>
        simp only [reduceCtorEq, and_false, if_false]
        rw [if_pos (h rfl hnull)]
        exact ⟨_, rfl⟩
    | atLeast | above | atMost | below | equal =>
        simp only [reduceCtorEq, and_false, if_false]
        exact ⟨_, rfl⟩

theorem Shortcut.term_ok (s : Shortcut) : ∃ t, (s.term now).result = .ok t := by
  have hcompare : ∀ {field value : String} {op : TermOp}, op ≠ .tilde →
      ∃ t, ((compareValue now field op value).map Term.filter).result = .ok t := by
    intro field value op hop
    obtain ⟨c, hc⟩ := compareValue_ok fun h => absurd h hop
    exact ⟨_, Reading.result_map_eq_ok_iff.2 ⟨c, hc, rfl⟩⟩
  cases s with
  | due | marked => exact hcompare TermOp.noConfusion
  | leech | new | duplicate | distinct => exact ⟨_, rfl⟩

/-- A field, an operator and a value are read, unless a tilde asks for a pattern. -/
theorem fieldTerm_ok (h : op = .tilde → field ≠ "sortBy" → field ≠ "due" →
      (field = "is" → Shortcut.ofName? value = none) → value ≠ nullName →
      (Pattern.ofString? (operandText now field value)).isSome = true) :
    ∃ t, (fieldTerm now field op value).result = .ok t := by
  unfold fieldTerm
  by_cases hsort : field = "sortBy"
  · rw [if_pos hsort]
    exact ⟨_, rfl⟩
  by_cases his : field = "is"
  · subst his
    rw [if_neg hsort, if_pos rfl]
    cases hname : Shortcut.ofName? value with
    | some s => exact s.term_ok
    | none =>
        obtain ⟨c, hc⟩ := compareValue_ok fun hop hnull =>
          h hop hsort (by decide) (fun _ => hname) hnull
        exact ⟨_, Reading.result_map_eq_ok_iff.2 ⟨c, hc, rfl⟩⟩
  rw [if_neg hsort, if_neg his]
  by_cases hdue : field = "due"
  · have hop : TermOp.atMost ≠ .tilde := TermOp.noConfusion
    obtain ⟨c, hc⟩ := compareValue_ok fun h => absurd h hop
    rw [if_pos hdue]
    exact ⟨_, Reading.result_map_eq_ok_iff.2 ⟨c, hc, rfl⟩⟩
  · obtain ⟨c, hc⟩ := compareValue_ok fun hop hnull =>
      h hop hsort hdue (fun e => absurd e his) hnull
    rw [if_neg hdue]
    exact ⟨_, Reading.result_map_eq_ok_iff.2 ⟨c, hc, rfl⟩⟩

end Read

/-! ## Plain terms -/

namespace IsPlainTerm

variable {t : List Char} (h : IsPlainTerm t) (now : Instant)

include h

theorem result_parse :
    (parse now t).result = (readTerm now t).result.map fun s => ofTerms [s] := by
  have htrimmed : IsTrimmed t :=
    ⟨fun c hc => h.unblank c (List.mem_of_mem_head? hc),
      fun c hc => h.unblank c (List.mem_of_getLast? hc)⟩
  have hplain : ∀ c ∈ t, c ≠ '"' ∧ c ≠ '(' ∧ [c] ∉ termMarks := fun c hc => by
    refine ⟨fun e => h.unmarked c hc (by simp [e]), fun e => h.unmarked c hc (by simp [e]), ?_⟩
    exact fun hmark => Bool.noConfusion ((h.unblank c hc).symm.trans (isBlank_of_termMark hmark))
  rw [parse_of_unblank h.ne_nil htrimmed h.unwrapped hplain, Reading.result_map]
  cases hread : (readTerm now t).result with
  | error e => rw [Reading.sequence_cons_error hread]; rfl
  | ok s => rw [Reading.result_sequence_cons_ok hread]; rfl

theorem result_parse_of_error {e : QueryError} (he : (readTerm now t).result = .error e) :
    (parse now t).result = .error e := by
  rw [h.result_parse, he]
  rfl

theorem readTerm_eq : readTerm now t = (bodyTerm now t t).map (SignedTerm.mk false) := by
  rw [readTerm, splitMinus_of_head h.unsigned]

theorem result_readTerm_of_isPart (hpart : IsPart t) :
    (readTerm now t).result = .ok ⟨false, .filter (anyOf t)⟩ := by
  have hsplit : split TermOp.signs true t = [t] :=
    (split_eq_iff_areParts h).2 ⟨List.flatten_singleton, by simpa using hpart, .singleton t⟩
  rw [h.readTerm_eq, bodyTerm, hsplit]
  rfl

theorem readTerm_of_areParts {f v : List Char} {op : TermOp} (hparts : AreParts t [f, op.sign, v]) :
    readTerm now t =
      (fieldTerm now (String.ofList f) op (String.ofList v)).map (SignedTerm.mk false) := by
  rw [h.readTerm_eq, bodyTerm_of_split ((split_eq_iff_areParts h).2 hparts)]

theorem result_readTerm_of_not_sign {f o v : List Char} (hparts : AreParts t [f, o, v])
    (ho : o ∉ TermOp.signs) :
    (readTerm now t).result = .error (.invalidOperator (String.ofList t) (String.ofList o)) := by
  have hnone : TermOp.ofSign? o = none := by
    cases hop : TermOp.ofSign? o with
    | none => rfl
    | some op => exact absurd (TermOp.sign_of_ofSign? hop ▸ op.sign_mem_signs) ho
  rw [h.readTerm_eq, bodyTerm, (split_eq_iff_areParts h).2 hparts]
  simp only [hnone]
  rfl

theorem result_readTerm_of_not_three (hword : ¬ IsPart t)
    (hthree : ∀ f o v, ¬ AreParts t [f, o, v]) :
    (readTerm now t).result = .error (.invalidTerm (String.ofList t)) := by
  rw [h.readTerm_eq, bodyTerm]
  split
  · next w hw =>
      have hparts := (split_eq_iff_areParts h).1 hw
      obtain rfl : w = t := by simpa using hparts.flatten
      exact absurd (hparts.parts w List.mem_cons_self) hword
  · next f o v hw => exact absurd ((split_eq_iff_areParts h).1 hw) (hthree f o v)
  · rfl

/-- A term of another shape is refused for the number of its parts, or for the middle one. -/
theorem refused_of_not_isWellFormed (hbad : ¬ IsWellFormed t) :
    (∀ f o v, ¬ AreParts t [f, o, v]) ∧
      (parse now t).result = .error (.invalidTerm (String.ofList t)) ∨
    ∃ f o v, AreParts t [f, o, v] ∧ o ∉ TermOp.signs ∧
      (parse now t).result = .error (.invalidOperator (String.ofList t) (String.ofList o)) := by
  by_cases hthree : ∃ f o v, AreParts t [f, o, v]
  · obtain ⟨f, o, v, hparts⟩ := hthree
    have ho : o ∉ TermOp.signs := fun hsign => by
      obtain ⟨op, rfl⟩ := TermOp.exists_of_mem_signs hsign
      exact hbad (Or.inr ⟨f, op, v, hparts⟩)
    have hread := h.result_readTerm_of_not_sign now hparts ho
    exact Or.inr ⟨f, o, v, hparts, ho, h.result_parse_of_error now hread⟩
  · have hnone : ∀ f o v, ¬ AreParts t [f, o, v] := fun f o v hparts =>
      hthree ⟨f, o, v, hparts⟩
    have hword : ¬ IsPart t := fun hpart => hbad (Or.inl hpart)
    have hread := h.result_readTerm_of_not_three now hword hnone
    exact Or.inl ⟨hnone, h.result_parse_of_error now hread⟩

theorem isPatternTerm_of_areParts {f v : List Char} (hparts : AreParts t [f, TermOp.tilde.sign, v])
    (hsort : String.ofList f ≠ "sortBy") (hdue : String.ofList f ≠ "due")
    (his : String.ofList f = "is" → Shortcut.ofName? (String.ofList v) = none)
    (hnull : String.ofList v ≠ nullName) :
    IsPatternTerm t (String.ofList f) (String.ofList v) where
  parts := by
    rw [splitMinus_of_head h.unsigned, String.toList_ofList, String.toList_ofList]
    exact (split_eq_iff_areParts h).2 hparts
  not_order := hsort
  not_due := hdue
  not_shortcut := his
  present := hnull

end IsPlainTerm

/-- A plain term is accepted when it is a word, or a field, an operator and a value,
and what a tilde asks for is a pattern. A text that is no pattern is refused as such,
and every other term for the number of its parts or for the middle one of three. -/
theorem term_accepted_iff {t : List Char} (h : IsPlainTerm t) (now : Instant) :
    ((∃ q, (parse now t).result = .ok q) ↔ IsWellFormed t ∧
      ∀ field value, IsPatternTerm t field value →
        (Pattern.ofString? (operandText now field value)).isSome = true) ∧
    (∀ field value, IsPatternTerm t field value →
      Pattern.ofString? (operandText now field value) = none →
      (parse now t).result = .error (.invalidPattern (operandText now field value))) ∧
    (¬ IsWellFormed t →
      (∀ f o v, ¬ AreParts t [f, o, v]) ∧
        (parse now t).result = .error (.invalidTerm (String.ofList t)) ∨
      ∃ f o v, AreParts t [f, o, v] ∧ o ∉ TermOp.signs ∧
        (parse now t).result = .error (.invalidOperator (String.ofList t) (String.ofList o))) := by
  have hpattern : ∀ field value, IsPatternTerm t field value →
      Pattern.ofString? (operandText now field value) = none →
      (parse now t).result = .error (.invalidPattern (operandText now field value)) :=
    fun field value hterm hnone => h.result_parse_of_error now (readTerm_of_not_pattern hterm hnone)
  refine ⟨⟨?_, ?_⟩, hpattern, h.refused_of_not_isWellFormed now⟩
  · rintro ⟨q, hq⟩
    constructor
    · by_contra hbad
      rcases h.refused_of_not_isWellFormed now hbad with ⟨-, he⟩ | ⟨f, o, v, -, -, he⟩
      · rw [hq] at he
        cases he
      · rw [hq] at he
        cases he
    · intro field value hterm
      rw [Option.isSome_iff_ne_none]
      intro hnone
      have he := hpattern field value hterm hnone
      rw [hq] at he
      cases he
  · rintro ⟨hpart | ⟨f, op, v, hparts⟩, hpatterns⟩
    · exact ⟨_, by rw [h.result_parse, h.result_readTerm_of_isPart now hpart]; rfl⟩
    · have hread : ∃ asked,
          (fieldTerm now (String.ofList f) op (String.ofList v)).result = .ok asked := by
        refine fieldTerm_ok fun hop hsort hdue his hnull => ?_
        subst hop
        exact hpatterns _ _ (h.isPatternTerm_of_areParts hparts hsort hdue his hnull)
      obtain ⟨asked, hasked⟩ := hread
      refine ⟨ofTerms [⟨false, asked⟩], ?_⟩
      rw [h.result_parse, h.readTerm_of_areParts now hparts, Reading.result_map, hasked]
      rfl

/-- An operator as the value, a text after a tilde that is no pattern, and a middle part
that is no operator. -/
theorem term_accepted_iff_by_shape :
    (IsPlainTerm "a>>=".toList ∧ ∃ q, (parse (.ofSeconds 0) "a>>=".toList).result = .ok q) ∧
    (IsPlainTerm "front~*".toList ∧ IsPatternTerm "front~*".toList "front" "*" ∧
      (parse (.ofSeconds 0) "front~*".toList).result = .error (.invalidPattern "*")) ∧
    IsPlainTerm ":a:".toList ∧ ¬ IsWellFormed ":a:".toList ∧
      (parse (.ofSeconds 0) ":a:".toList).result = .error (.invalidOperator ":a:" "a") := by
  refine ⟨?_, ?_, ?_⟩
  · have h : IsPlainTerm "a>>=".toList := by decide
    have hparts : AreParts "a>>=".toList [['a'], TermOp.above.sign, ['>', '=']] :=
      ⟨by decide, by decide, by decide⟩
    refine ⟨h, (term_accepted_iff h _).1.2 ⟨Or.inr ⟨_, _, _, hparts⟩, fun field value hterm => ?_⟩⟩
    have hsplit := hterm.parts
    rw [splitMinus_of_head h.unsigned, (split_eq_iff_areParts h).2 hparts] at hsplit
    exact absurd (List.cons.inj (List.cons.inj hsplit).2).1 (by decide)
  · have h : IsPlainTerm "front~*".toList := by decide
    have hterm : IsPatternTerm "front~*".toList "front" "*" :=
      { parts := by cbv
        not_order := by decide
        not_due := by decide
        not_shortcut := by decide
        present := by decide }
    have hbad : Pattern.ofString? (operandText (.ofSeconds 0) "front" "*") = none := by cbv
    exact ⟨h, hterm, (term_accepted_iff h _).2.1 _ _ hterm hbad⟩
  · have h : IsPlainTerm ":a:".toList := by decide
    have hparts : AreParts ":a:".toList [[':'], ['a'], [':']] := ⟨by decide, by decide, by decide⟩
    have honly : ∀ {ps}, AreParts ":a:".toList ps → [[':'], ['a'], [':']] = ps := fun hps =>
      ((split_eq_iff_areParts h).2 hparts).symm.trans ((split_eq_iff_areParts h).2 hps)
    have hbad : ¬ IsWellFormed ":a:".toList := by
      rintro (hpart | ⟨f, op, v, hps⟩)
      · exact absurd hpart (by decide)
      · have hop := (List.cons.inj (List.cons.inj (honly hps)).2).1
        exact absurd (hop ▸ op.sign_mem_signs) (by decide)
    refine ⟨h, hbad, ?_⟩
    rcases (term_accepted_iff h (.ofSeconds 0)).2.2 hbad with ⟨hnone, -⟩ | ⟨f, o, v, hps, -, he⟩
    · exact absurd hparts (hnone _ _ _)
    · obtain rfl := (List.cons.inj (List.cons.inj (honly hps)).2).1
      exact he

/-- A sign alone is a word, though it is neither free of signs nor a field, an operator
and a value. -/
theorem lone_sign_accepted :
    IsPlainTerm [':'] ∧ (∃ c ∈ [':'], [c] ∈ TermOp.signs) ∧
    (∀ (f : List Char) (op : TermOp) (v : List Char), f ≠ [] → v ≠ [] →
      [':'] ≠ f ++ op.sign ++ v) ∧
    (parse (.ofSeconds 0) [':']).result = .ok { condition := .all [anyOf [':']] } := by
  refine ⟨by decide, ⟨':', by decide, by decide⟩, fun f op v hf hv e => ?_, by cbv⟩
  have hlen := congrArg List.length e
  have hfield := List.length_pos_iff.2 hf
  have hsign := List.length_pos_iff.2 op.sign_ne_nil
  rw [List.length_append, List.length_append, List.length_singleton] at hlen
  omega

end CardSearch.Query
