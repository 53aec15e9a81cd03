import CardSearch.Proofs.QueryText
import CardSearch.Proofs.Readings

/-!
# A field, a colon and a value

A term is cut at the signs, and a field that is made of letters is never cut. So
what `f:v` means hangs on the value alone: it has to come back from the signs in
one piece and unchanged, which `KeptBySigns` describes. The field then finds the
value as it is written, `literalTest`. A query of such a term and no blank is
that term alone (`IsName.parse_colon`).

The converse is a matter of length. Whatever term asks for `literalTest f v` has
a field, a sign and a value that together are at least as long as `f:v`
(`length_le_of_readTerm`), and no text yields parts longer than itself.
-/

namespace CardSearch

namespace Query

open Text (isBlank)
open Time (Instant)

theorem literalPattern_injective {s t : List Char} (h : literalPattern s = literalPattern t) :
    s = t :=
  Pattern.escape_injective (String.ofList_injective (Operand.text.inj h))

/-- The condition that a field holds a text as it is written. -/
def literalTest (f v : List Char) : Condition :=
  .field (String.ofList f) .pattern (literalPattern v)

/-- A name of letters. -/
structure IsName (f : List Char) : Prop where
  ne_nil : f ≠ []
  letters : ∀ c ∈ f, c.isAlpha = true

instance (f : List Char) : Decidable (IsName f) :=
  decidable_of_iff (f ≠ [] ∧ f.all (·.isAlpha) = true)
    ⟨fun h => ⟨h.1, by simpa using h.2⟩, fun h => ⟨h.ne_nil, by simpa using h.letters⟩⟩

/-- A field name of letters that has no meaning of its own before a colon. -/
structure IsPlainField (f : List Char) : Prop where
  ne_nil : f ≠ []
  letters : ∀ c ∈ f, c.isAlpha = true
  plain : String.ofList f ∉ ["is", "due", "sortBy"] ++ instantFields

instance (f : List Char) : Decidable (IsPlainField f) :=
  decidable_of_iff (f ≠ [] ∧ f.all (·.isAlpha) = true ∧
      String.ofList f ∉ ["is", "due", "sortBy"] ++ instantFields)
    ⟨fun h => ⟨h.1, by simpa using h.2.1, h.2.2⟩,
      fun h => ⟨h.ne_nil, by simpa using h.letters, h.plain⟩⟩

theorem IsPlainField.isName {f : List Char} (h : IsPlainField f) : IsName f := ⟨h.ne_nil, h.letters⟩

/-- A value that is not empty, does not end a quotation and escapes nothing. -/
structure IsQuotable (v : List Char) : Prop where
  ne_nil : v ≠ []
  unquoted : '"' ∉ v
  unescaped : '\\' ∉ v
  present : v ≠ nullName.toList

/-- Whether a value after a sign comes back from the signs as it is: it is a sign
itself, or no sign and no bracket is in it. -/
def KeptBySigns (v : List Char) : Prop :=
  v ∈ TermOp.signs ∨ ∀ c ∈ v, c ≠ '(' ∧ [c] ∉ TermOp.signs

/-! ## Letters are text -/

theorem isText_start {seps : List (List Char)} {c : Char} (hquote : c ≠ '"') (hopen : c ≠ '(')
    (hsep : ∀ sep ∈ seps, sep.head? ≠ some c) : Mode.start.IsText seps c := by
  refine ⟨fun escaped => ?_, fun _ => hsep⟩
  simp [Mode.after?, Mode.start, Mode.isOpen, hquote, hopen]

theorem isText_of_isAlpha {seps : List (List Char)} {c : Char} (hc : c.isAlpha = true)
    (hseps : ∀ sep ∈ seps, ∀ d ∈ sep.head?, d.isAlpha = false) : Mode.start.IsText seps c :=
  isText_start (Text.ne_of_test hc (by decide)) (Text.ne_of_test hc (by decide))
    fun sep hsep hhead => Text.ne_of_test hc (hseps sep hsep c hhead) rfl

theorem isAlpha_of_termMark {c : Char} (h : [c] ∈ termMarks) : c.isAlpha = false := by
  simp only [termMarks, List.mem_cons, List.cons.injEq, and_true, List.not_mem_nil, or_false] at h
  rcases h with rfl | rfl | rfl <;> rfl

theorem isBlank_of_termMark {c : Char} (h : [c] ∈ termMarks) : isBlank c = true := by
  simp only [termMarks, List.mem_cons, List.cons.injEq, and_true, List.not_mem_nil, or_false] at h
  rcases h with rfl | rfl | rfl <;> rfl

/-! ## Signs are text for the blanks, and cut by the signs -/

theorem TermOp.sign_ne_nil (op : TermOp) : op.sign ≠ [] := by
  cases op <;> exact List.cons_ne_nil _ _

/-- A sign neither quotes, groups nor escapes, and no blank between terms is in it. -/
theorem TermOp.sign_chars (op : TermOp) :
    ∀ c ∈ op.sign, c ≠ '"' ∧ c ≠ '(' ∧ c ≠ '\\' ∧ [c] ∉ termMarks := by
  cases op <;> simp [TermOp.sign, termMarks]

theorem pieces_sign {op : TermOp} {v : List Char}
    (h : separatorIn? (orderSeparators TermOp.signs) .start false (op.sign ++ v) = some op.sign) :
    pieces (orderSeparators TermOp.signs) .start false (op.sign ++ v) =
      .mark op.sign :: pieces (orderSeparators TermOp.signs) .start false v := by
  cases op <;> exact pieces_cons_mark rfl h

namespace IsName

variable {f : List Char} (h : IsName f)

include h

theorem head_isAlpha (rest : List Char) : ∃ c, (f ++ rest).head? = some c ∧ c.isAlpha = true := by
  obtain ⟨c, f, rfl⟩ := List.exists_cons_of_ne_nil h.ne_nil
  exact ⟨c, rfl, h.letters c List.mem_cons_self⟩

theorem head_ne (rest : List Char) {d : Char} (hd : d.isAlpha = false) :
    (f ++ rest).head? ≠ some d := by
  obtain ⟨c, hhead, hc⟩ := h.head_isAlpha rest
  rw [hhead]
  exact fun e => Text.ne_of_test hc hd (Option.some.inj e)

theorem head_unblank (rest : List Char) : ∀ c ∈ (f ++ rest).head?, isBlank c = false := by
  obtain ⟨d, hhead, hletter⟩ := h.head_isAlpha rest
  intro c hc
  rw [hhead] at hc
  obtain rfl := Option.some.inj hc
  exact Text.isBlank_of_isAlpha hletter

theorem stripBrackets_append (rest : List Char) : stripBrackets (f ++ rest) = f ++ rest :=
  stripBrackets_eq_self (h.head_ne rest (by decide))

theorem splitMinus_append (rest : List Char) : splitMinus (f ++ rest) = (false, f ++ rest) :=
  splitMinus_of_head (h.head_ne rest (by decide))

/-- A name and a sign are cut off, unless a longer sign stands there. -/
theorem split_sign {op : TermOp} {v : List Char}
    (hsep : separatorIn? (orderSeparators TermOp.signs) .start false (op.sign ++ v) =
      some op.sign) :
    split TermOp.signs true (f ++ (op.sign ++ v)) =
      f :: op.sign :: tokens true (pieces (orderSeparators TermOp.signs) .start false v) := by
  have htext : ∀ c ∈ f, Mode.start.IsText (orderSeparators TermOp.signs) c := fun c hc =>
    isText_of_isAlpha (h.letters c hc) (by rw [orderSeparators_signs]; simp)
  have hescaped : endsEscaped false f = false := by
    refine endsEscaped_eq_false h.ne_nil fun hlast => ?_
    exact Text.ne_of_test (h.letters _ (List.mem_of_getLast? hlast)) (by decide) rfl
  rw [split_eq (h.stripBrackets_append _),
    pieces_append_of_passes (passes_of_isText (fun _ => ne_nil_of_mem_orderSeparators) htext _),
    hescaped, pieces_sign hsep, tokens_append_mark, tokens_text, flush, if_neg h.ne_nil]
  rfl

theorem split_signs (v : List Char) :
    split TermOp.signs true (f ++ ':' :: v) =
      f :: [':'] :: tokens true (pieces (orderSeparators TermOp.signs) .start false v) := by
  have hcolon : separatorIn? (orderSeparators TermOp.signs) .start false
      (TermOp.colon.sign ++ v) = some TermOp.colon.sign := by
    rw [orderSeparators_signs]
    rfl
  have hcut : ':' :: v = TermOp.colon.sign ++ v := rfl
  rw [hcut, h.split_sign hcolon]
  rfl

/-- A name and a sign are text for every pass before the signs. -/
theorem passes_sign {seps : List (List Char)} (hne : ∀ sep ∈ seps, sep ≠ [])
    (hheads : ∀ sep ∈ seps, ∀ c ∈ sep.head?, [c] ∈ termMarks) (op : TermOp) (rest : List Char) :
    Passes seps .start rest false (f ++ op.sign) := by
  refine passes_of_isText hne (fun c hc => ?_) rest
  rcases List.mem_append.1 hc with hc | hc
  · exact isText_of_isAlpha (h.letters c hc)
      fun sep hsep d hd => isAlpha_of_termMark (hheads sep hsep d hd)
  · obtain ⟨hquote, hopen, -, hmark⟩ := op.sign_chars c hc
    exact isText_start hquote hopen fun sep hsep hhead => hmark (hheads sep hsep c hhead)

theorem endsEscaped_sign (op : TermOp) : endsEscaped false (f ++ op.sign) = false := by
  refine endsEscaped_eq_false (fun e => h.ne_nil (List.append_eq_nil_iff.1 e).1) fun hlast => ?_
  rw [List.getLast?_append_of_ne_nil _ op.sign_ne_nil] at hlast
  exact (op.sign_chars _ (List.mem_of_getLast? hlast)).2.2.1 rfl

/-- The value goes with the field if the signs leave it in one piece. -/
theorem readTerm_colon {v w : List Char}
    (hw : tokens true (pieces (orderSeparators TermOp.signs) .start false v) = [w])
    (now : Instant) :
    readTerm now (f ++ ':' :: v) =
      (fieldTerm now (String.ofList f) .colon (String.ofList w)).map (SignedTerm.mk false) := by
  have hcolon : TermOp.ofSign? [':'] = some .colon := by decide
  rw [readTerm, h.splitMinus_append]
  simp only [bodyTerm, h.split_signs, hw, hcolon]

end IsName

theorem IsPlainField.fieldTerm_colon {f : List Char} (h : IsPlainField f) (now : Instant) (w : List Char) :
    fieldTerm now (String.ofList f) .colon (String.ofList w) =
      .pure (.filter (if w = nullName.toList then .isNull (String.ofList f)
        else literalTest f w)) := by
  have hplain := h.plain
  simp only [List.cons_append, List.nil_append, List.mem_cons, not_or] at hplain
  obtain ⟨his, hdue, hsort, hinstant⟩ := hplain
  have hcontains : instantFields.contains (String.ofList f) = false := by simpa using hinstant
  rw [fieldTerm, if_neg hsort, if_neg his, if_neg hdue, compareValue]
  by_cases hw : w = nullName.toList
  · rw [if_pos (by rw [hw]; rfl), if_pos hw]
    rfl
  · rw [if_neg (fun e => hw (by rw [← e, String.toList_ofList])), if_neg hw, compareText]
    simp only [hcontains, Bool.false_eq_true, if_false, Option.isSome_none, false_and,
      Option.getD_none, String.toList_ofList]
    rfl

theorem TermOp.sign_of_ofSign? {s : List Char} {op : TermOp} (h : TermOp.ofSign? s = some op) :
    op.sign = s := by
  rw [ofSign?] at h
  have hsign := List.find?_some h
  exact beq_iff_eq.1 hsign

/-! ## Values that the signs leave alone -/

theorem tokens_signs_of_kept {v : List Char} (hne : v ≠ []) (hquote : '"' ∉ v)
    (h : KeptBySigns v) :
    tokens true (pieces (orderSeparators TermOp.signs) .start false v) = [v] := by
  rcases h with hsign | hplain
  · rw [orderSeparators_signs]
    rw [show TermOp.signs = [[':'], ['>', '='], ['>'], ['<', '='], ['<'], ['='], ['~']] from rfl]
      at hsign
    simp only [List.mem_cons, List.not_mem_nil, or_false] at hsign
    rcases hsign with rfl | rfl | rfl | rfl | rfl | rfl | rfl <;> cbv
  · have hheads : ∀ sep ∈ orderSeparators TermOp.signs, ∀ c ∈ sep.head?, [c] ∈ TermOp.signs := by
      rw [orderSeparators_signs]
      simp [TermOp.signs, TermOp.all, TermOp.sign]
    have htext : ∀ c ∈ v, Mode.start.IsText (orderSeparators TermOp.signs) c := fun c hc =>
      isText_start (fun e => hquote (e ▸ hc)) (hplain c hc).1
        fun sep hsep hhead => (hplain c hc).2 (hheads sep hsep c hhead)
    rw [pieces_of_passes (passes_of_isText (fun _ => ne_nil_of_mem_orderSeparators) htext []),
      tokens_text, flush, if_neg hne]

theorem kept_of_tokens_signs {v : List Char} (hback : '\\' ∉ v)
    (h : tokens true (pieces (orderSeparators TermOp.signs) .start false v) = [v]) :
    KeptBySigns v := by
  by_cases hmark : ∃ sep, .mark sep ∈ pieces (orderSeparators TermOp.signs) .start false v
  · -- A sign among the pieces is a token of its own, so it is the only one.
    obtain ⟨sep, hsep⟩ := hmark
    have hmem := (mem_orderSeparators.1 (mem_of_mark_mem_pieces hsep)).1
    obtain ⟨before, after, hpieces⟩ := List.append_of_mem hsep
    rw [hpieces, tokens_append_mark, if_pos rfl] at h
    have hsign : sep ∈ [v] := by
      rw [← h]
      simp
    rw [List.mem_singleton.1 hsign] at hmem
    exact Or.inl hmem
  · have hpasses := passes_of_length_le (fun _ => ne_nil_of_mem_orderSeparators)
      (by rw [h, List.flatten_singleton]) (fun sep hsep => absurd ⟨sep, hsep⟩ hmark)
    refine Or.inr fun c hc => ?_
    obtain ⟨-, hopen, hsep⟩ := hpasses.not_mem hback c hc
    exact ⟨hopen, fun hmem => hsep (mem_orderSeparators.2 ⟨hmem, List.cons_ne_nil c []⟩)⟩

/-! ## What such a term asks for -/

theorem readTerm_field {f : List Char} (hf : IsPlainField f) (now : Instant) (v : List Char) :
    (readTerm now (f ++ ':' :: v)).result =
      match tokens true (pieces (orderSeparators TermOp.signs) .start false v) with
      | [w] => .ok ⟨false, .filter (if w = nullName.toList then .isNull (String.ofList f)
          else literalTest f w)⟩
      | _ => .error (.invalidTerm (String.ofList (f ++ ':' :: v))) := by
  rw [readTerm, hf.isName.splitMinus_append]
  show ((bodyTerm now (f ++ ':' :: v) (f ++ ':' :: v)).map _).result = _
  rw [Reading.result_map, bodyTerm, hf.isName.split_signs]
  cases tokens true (pieces (orderSeparators TermOp.signs) .start false v) with
  | nil => rfl
  | cons w ws =>
      cases ws with
      | nil =>
          have hcolon : TermOp.ofSign? [':'] = some .colon := by decide
          simp only [hcolon, hf.fieldTerm_colon]
          rfl
      | cons w' ws => rfl

/-- The term finds the value in the field exactly if the signs keep the value. -/
theorem readTerm_eq_literalTest_iff {f v : List Char} (hf : IsPlainField f) (hv : IsQuotable v)
    (now : Instant) :
    (readTerm now (f ++ ':' :: v)).result = .ok ⟨false, .filter (literalTest f v)⟩ ↔
      KeptBySigns v := by
  rw [readTerm_field hf]
  constructor
  · intro h
    split at h
    · next w hw =>
        have hcond := Term.filter.inj (SignedTerm.mk.inj (Except.ok.inj h)).2
        split at hcond
        · cases hcond
        · obtain ⟨-, -, hpattern⟩ := Condition.field.inj hcond
          rw [literalPattern_injective hpattern] at hw
          exact kept_of_tokens_signs hv.unescaped hw
    · cases h
  · intro hkept
    rw [tokens_signs_of_kept hv.ne_nil hv.unquoted hkept]
    simp only [if_neg hv.present]

theorem condition?_eq_literalTest_iff {t : SignedTerm} {f v : List Char} :
    t.condition? = some (literalTest f v) ↔ t = ⟨false, .filter (literalTest f v)⟩ := by
  constructor
  · intro h
    obtain ⟨negated, term⟩ := t
    cases term with
    | filter c =>
        cases negated with
        | false =>
            obtain rfl : c = literalTest f v := Option.some.inj h
            rfl
        | true => cases Option.some.inj h
    | sort field => cases h
    | select s => cases h
  · rintro rfl
    rfl

/-! ## A query of one such term

The marks between alternatives and between terms both begin with a blank. -/

theorem head_orMark : ∀ sep ∈ orderSeparators [orMark], ∀ c ∈ sep.head?, [c] ∈ termMarks := by
  rw [orderSeparators_orMark]
  simp [orMark, termMarks]

theorem head_termMarks : ∀ sep ∈ orderSeparators termMarks, ∀ c ∈ sep.head?, [c] ∈ termMarks := by
  rw [orderSeparators_termMarks]
  simp [termMarks]

theorem getLast?_field {v : List Char} (hne : v ≠ []) (f : List Char) :
    (f ++ ':' :: v).getLast? = v.getLast? := by
  have hcut : f ++ ':' :: v = (f ++ [':']) ++ v := by simp
  rw [hcut, List.getLast?_append_of_ne_nil _ hne]

/-- A text without blanks between terms, quotation marks and brackets is one term. -/
theorem parse_of_unblank {t : List Char} (hne : t ≠ []) (htrimmed : IsTrimmed t)
    (hstrip : stripBrackets t = t) (hplain : ∀ c ∈ t, c ≠ '"' ∧ c ≠ '(' ∧ [c] ∉ termMarks)
    (now : Instant) :
    parse now t = (Reading.sequence [readTerm now t]).map ofTerms := by
  have hsplit : ∀ {seps : List (List Char)} (keep : Bool),
      (∀ sep ∈ orderSeparators seps, ∀ c ∈ sep.head?, [c] ∈ termMarks) →
      split seps keep t = [t] := by
    intro seps keep hheads
    refine split_of_isText hne hstrip (fun c hc => ?_) keep
    obtain ⟨hquote, hopen, hmark⟩ := hplain c hc
    exact isText_start hquote hopen fun sep hsep hhead => hmark (hheads sep hsep c hhead)
  have hlist : IsTermList t := by
    refine ⟨hstrip, ?_⟩
    rw [hsplit true head_orMark, List.mem_singleton]
    rintro rfl
    exact (hplain ' ' (by decide)).2.2 (by decide)
  rw [parse_of_isTermList htrimmed hlist, hsplit false head_termMarks, List.map_singleton]

theorem IsName.isTrimmed_colon {f v : List Char} (hf : IsName f) (hne : v ≠ [])
    (hlast : ∀ c ∈ v.getLast?, isBlank c = false) : IsTrimmed (f ++ ':' :: v) :=
  ⟨hf.head_unblank _, by rwa [getLast?_field hne]⟩

/-- A name, a colon and a value without blanks between terms are one term. -/
theorem IsName.parse_colon {f v : List Char} (hf : IsName f) (hne : v ≠ [])
    (hplain : ∀ c ∈ v, c ≠ '"' ∧ c ≠ '(' ∧ [c] ∉ termMarks)
    (hlast : ∀ c ∈ v.getLast?, isBlank c = false) (now : Instant) :
    parse now (f ++ ':' :: v) = (Reading.sequence [readTerm now (f ++ ':' :: v)]).map ofTerms := by
  have htrimmed := hf.isTrimmed_colon hne hlast
  refine parse_of_unblank (by simp) htrimmed (hf.stripBrackets_append _) (fun c hc => ?_) now
  rcases List.mem_append.1 hc with hc | hc
  · have hletter := hf.letters c hc
    exact ⟨Text.ne_of_test hletter (by decide), Text.ne_of_test hletter (by decide),
      fun hmark => Bool.noConfusion (hletter.symm.trans (isAlpha_of_termMark hmark))⟩
  · rcases List.mem_cons.1 hc with rfl | hc
    · decide
    · exact hplain c hc

/-! ## Terms that ask for the same -/

/-- The text that a value stands for in a field: itself, or in a field that holds
an instant the instant that a span leads to. -/
def operandText (now : Instant) (field value : String) : String :=
  (if instantFields.contains field then relativeInstant? now value else none).getD value

/-- A missing value is not looked for. -/
theorem op_ne_pattern_of_isNull {field : String} {t : FieldTest}
    (ht : t ∈ (Condition.isNull field).tests) : t.op ≠ .pattern := by
  simp only [Condition.isNull, Condition.tests, Condition.testsOfParts, List.append_nil,
    List.mem_append, List.mem_singleton] at ht
  rcases ht with rfl | rfl
  · exact Operator.noConfusion
  · exact Operator.noConfusion

/-- Only a colon and a tilde look for a pattern: a colon for one that finds the
value, a tilde for the value itself, if it is a pattern. -/
theorem pattern_of_compareValue {now : Instant} {field value : String} {op : TermOp}
    {c : Condition} (h : (compareValue now field op value).result = .ok c) {t : FieldTest}
    (ht : t ∈ c.tests) (hop : t.op = .pattern) :
    t.name = field ∧ (op = .colon ∧ t.operand = literalPattern value.toList ∨
      op = .tilde ∧ t.operand = .text (operandText now field value) ∧
        (Pattern.ofString? (operandText now field value)).isSome = true) := by
  have hleaf : ∀ {name : String} {o : Operator} {x : Operand},
      t ∈ (Condition.field name o x).tests → t = ⟨name, o, x⟩ := fun h => List.mem_singleton.1 h
  unfold compareValue at h
  split at h
  · cases h
    exact absurd hop (op_ne_pattern_of_isNull ht)
  · unfold compareText at h
    unfold operandText
    generalize (if instantFields.contains field then relativeInstant? now value else none) = instant
      at h ⊢
    cases op with
    | colon =>
        cases instant with
        | none =>
            cases h
            obtain rfl := hleaf ht
            exact ⟨rfl, Or.inl ⟨rfl, rfl⟩⟩
        | some text =>
            -- An instant is compared with and not looked for.
            by_cases hnext : field = "nextReview"
            · simp only [Option.isSome_some, and_self, if_true, hnext] at h
              cases h
              obtain rfl := hleaf ht
              cases hop
            · simp only [Option.isSome_some, and_self, if_true, if_neg hnext] at h
              cases h
              obtain rfl := hleaf ht
              cases hop
    | tilde =>
        simp only [reduceCtorEq, and_false, if_false] at h
        split at h
        · next hpattern =>
            cases h
            obtain rfl := hleaf ht
            exact ⟨rfl, Or.inr ⟨rfl, rfl, hpattern⟩⟩
        · cases h
    | atLeast | above | atMost | below | equal =>
        simp only [reduceCtorEq, and_false, if_false] at h
        cases h
        obtain rfl := hleaf ht
        cases hop

theorem operandText_of_not_mem {field : String} (h : field ∉ instantFields) (now : Instant)
    (value : String) : operandText now field value = value := by
  rw [operandText, if_neg (by simpa using h), Option.getD_none]

theorem compareValue_pattern {now : Instant} {field value n : String} {op : TermOp} {x : Operand}
    (h : (compareValue now field op value).result = .ok (.field n .pattern x)) :
    n = field ∧ (op = .colon ∨ op = .tilde) ∧
      (field ∉ instantFields → x = literalPattern value.toList ∨ x = .text value) := by
  obtain ⟨hname, hoperand⟩ := pattern_of_compareValue h (List.mem_singleton.2 rfl) rfl
  refine ⟨hname, ?_⟩
  rcases hoperand with ⟨rfl, hx⟩ | ⟨rfl, hx, -⟩
  · exact ⟨Or.inl rfl, fun _ => Or.inl hx⟩
  · refine ⟨Or.inr rfl, fun hfield => Or.inr ?_⟩
    rw [← operandText_of_not_mem hfield now value]
    exact hx

theorem fieldTerm_pattern {now : Instant} {field value : String} {op : TermOp} {f : List Char}
    {x : Operand} (hf : IsPlainField f)
    (h : (fieldTerm now field op value).result =
      .ok (.filter (.field (String.ofList f) .pattern x))) :
    field = String.ofList f ∧ (x = literalPattern value.toList ∨ x = .text value) := by
  have hplain := hf.plain
  simp only [List.cons_append, List.nil_append, List.mem_cons, not_or] at hplain
  obtain ⟨his, -, -, hinstant⟩ := hplain
  have hreview : String.ofList f ≠ "nextReview" := by
    intro e
    rw [e] at hinstant
    exact hinstant (by decide)
  have hcompare : ∀ {field' : String} {op' : TermOp} {value' : String},
      ((compareValue now field' op' value').map Term.filter).result =
          .ok (.filter (.field (String.ofList f) .pattern x)) →
        (compareValue now field' op' value').result =
          .ok (.field (String.ofList f) .pattern x) := by
    intro field' op' value' hmap
    obtain ⟨c, hc, hterm⟩ := Reading.result_map_eq_ok_iff.1 hmap
    rw [hc, Term.filter.inj hterm]
  unfold fieldTerm at h
  split at h
  · cases h
  split at h
  · split at h
    · next s _ =>
        cases s with
        | due => exact absurd (compareValue_pattern (hcompare h)).1 hreview
        | marked =>
            obtain ⟨-, hop, -⟩ := compareValue_pattern (hcompare h)
            rcases hop with hop | hop <;> cases hop
        | leech =>
            have hcond := Term.filter.inj (Except.ok.inj h)
            cases (Condition.field.inj hcond).2.1
        | new | duplicate | distinct => cases h
    · exact absurd (compareValue_pattern (hcompare h)).1 his
  split at h
  · exact absurd (compareValue_pattern (hcompare h)).1 hreview
  · obtain ⟨hfield, -, hx⟩ := compareValue_pattern (hcompare h)
    exact ⟨hfield.symm, hx (by rwa [← hfield])⟩

theorem length_splitMinus_le (u : List Char) : (splitMinus u).2.length ≤ u.length := by
  unfold splitMinus
  split
  · exact Nat.le_succ _
  · exact Nat.le_refl _

/-- A term that asks for the same is at least as long. -/
theorem length_le_of_readTerm {now : Instant} {t f v : List Char} {negated : Bool}
    (hf : IsPlainField f)
    (h : (readTerm now t).result = .ok ⟨negated, .filter (literalTest f v)⟩) :
    (f ++ ':' :: v).length ≤ t.length := by
  have hbody : ((bodyTerm now t (splitMinus t).2).map
      (SignedTerm.mk (splitMinus t).1)).result = .ok ⟨negated, .filter (literalTest f v)⟩ := h
  obtain ⟨term, hterm, hsigned⟩ := Reading.result_map_eq_ok_iff.1 hbody
  obtain ⟨-, rfl⟩ := SignedTerm.mk.inj hsigned
  have hminus := length_splitMinus_le t
  have hparts := length_flatten_split_le TermOp.signs true (splitMinus t).2
  unfold bodyTerm at hterm
  split at hterm
  · cases hterm
  · next field op value hsplit =>
      split at hterm
      · next op' hop =>
          obtain ⟨hfield, hvalue⟩ := fieldTerm_pattern hf hterm
          have hvlen : v.length ≤ value.length := by
            rw [String.toList_ofList] at hvalue
            rcases hvalue with hlit | htext
            · rw [literalPattern_injective hlit]
            · rw [← String.ofList_injective (Operand.text.inj htext)]
              exact Pattern.length_le_escape v
          have hoplen : 0 < op.length := by
            rw [← TermOp.sign_of_ofSign? hop]
            cases op' <;> exact Nat.zero_lt_succ _
          rw [hsplit, String.ofList_injective hfield] at hparts
          simp only [List.flatten_cons, List.flatten_nil, List.length_append, List.append_nil,
            List.length_cons] at hparts ⊢
          omega
      · cases hterm
  · cases hterm

end Query

end CardSearch
