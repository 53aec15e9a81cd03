import CardSearch.Proofs.DueQueries
import CardSearch.Proofs.IntegerOrder
import CardSearch.Proofs.TermParts

/-!
# Shortcuts and their long forms

A shortcut makes its condition itself, its long form goes through the value of a term.
Where that value is a text both give the same condition, so no card tells them apart.
The shortcut for leeches asks for the number zero, and a typed value never is a number:
`srsLevel=0` asks for the text `0`, which equality keeps apart from the number.

`due:` takes any value. What it means hangs on its first term, and a name and a sign
before a text change nothing about how the text is cut (`IsHead.split_append`), be it
into alternatives, terms or parts. So two such heads that ask for the same of every
value make the same queries (`AskAlike.toOption_parse`).
-/

namespace CardSearch

open Time (Instant)

/-- No custom field adds to the review level. -/
theorem Card.find_srsLevel (card : Card) :
    card.find "srsLevel".toList =
      ((card.fields.lookup "srsLevel").map Found.ofValue).getD .absent :=
  column_of_key (by decide) (by decide)

/-! ## Equality with a number and with a text -/

/-- A number that is zero, whole or not. -/
def Json.IsZero : Json → Prop
  | .number (.int n) => n = 0
  | .number (.float x) => x.mantissa = 0
  | _ => False

theorem Number.Double.numerator_eq_zero_iff {x : Number.Double} :
    x.numerator = 0 ↔ x.mantissa = 0 := by
  have hmagnitude : x.magnitude.1 = 0 ↔ x.mantissa = 0 := by
    unfold magnitude
    split
    · exact ⟨fun h => (Nat.mul_eq_zero.1 h).resolve_right (Nat.two_pow_pos _).ne',
        fun h => by rw [h, Nat.zero_mul]⟩
    · exact Iff.rfl
  rw [← hmagnitude]
  unfold numerator
  split
  · rw [Int.neg_eq_zero, Int.natCast_eq_zero]
  · rw [Int.natCast_eq_zero]

namespace Match

theorem equalsOperand_zero_iff {v : Json} : equalsOperand v (.number 0) = true ↔ v.IsZero := by
  cases v with
  | number n =>
      cases n with
      | int n =>
          show (Number.nearestInt n == 0) = true ↔ n = 0
          rw [beq_iff_eq, Number.nearestInt_eq_zero_iff]
      | float x =>
          show (compare x.numerator (0 * x.denominator) == .eq) = true ↔ x.mantissa = 0
          rw [Int.zero_mul, beq_iff_eq, Int.compare_eq_eq, Number.Double.numerator_eq_zero_iff]
  | null | bool b | string s | array items | object fields => exact ⟨nofun, nofun⟩

theorem equalsOperand_text_iff {v : Json} {t : String} :
    equalsOperand v (.text t) = true ↔ v = .string t := by
  cases v with
  | string s =>
      show (s == t) = true ↔ _
      rw [beq_iff_eq, Json.string.injEq]
  | null | bool b | number n | array items | object fields => exact ⟨nofun, nofun⟩

end Match

theorem Found.equals_iff {f : Found} {operand : Operand} (h : operand ≠ .null) :
    f.equals operand = true ↔ ∃ v ∈ f.values, Match.equalsOperand v operand = true := by
  cases f with
  | absent =>
      show (operand == .null) = true ↔ _
      rw [beq_iff_eq]
      exact ⟨fun e => absurd e h, fun ⟨v, hv, _⟩ => (List.not_mem_nil hv).elim⟩
  | one v => exact List.any_eq_true
  | many vs => exact List.any_eq_true

namespace Query

/-! ## A name and a sign before a text -/

/-- A name and a sign that is the longest one whatever follows. -/
structure IsHead (f : List Char) (op : TermOp) : Prop where
  name : IsName f
  cut : ∀ v, separatorIn? (orderSeparators TermOp.signs) .start false (op.sign ++ v) = some op.sign

namespace IsHead

variable {f : List Char} {op : TermOp} (h : IsHead f op)

include h

theorem body_append (v : List Char) : body (f ++ op.sign ++ v) = f ++ op.sign ++ Text.trimEnd v := by
  have hfirst : Text.trimStart (f ++ op.sign ++ v) = f ++ op.sign ++ v := by
    rw [List.append_assoc]
    exact Text.trimStart_eq_self (h.name.head_unblank _)
  have hlast : ∀ c ∈ (f ++ op.sign).getLast?, Text.isBlank c = false := by
    have hsign : ∀ c ∈ op.sign, Text.isBlank c = false := by
      cases op <;> simp [TermOp.sign, Text.isBlank]
    intro c hc
    rw [List.getLast?_append_of_ne_nil _ op.sign_ne_nil] at hc
    exact hsign c (List.mem_of_getLast? hc)
  rw [body, Text.trim, hfirst, Text.trimEnd_append hlast, List.append_assoc,
    h.name.stripBrackets_append]

/-- The head goes with the first token of the text, and the other tokens stay as they are. -/
theorem split_append {seps : List (List Char)} (keep : Bool)
    (hheads : ∀ sep ∈ orderSeparators seps, ∀ c ∈ sep.head?, [c] ∈ termMarks) (v : List Char) :
    split seps keep (f ++ op.sign ++ v) =
      (f ++ op.sign ++ (assemble keep (pieces (orderSeparators seps) .start false v)).1) ::
        (assemble keep (pieces (orderSeparators seps) .start false v)).2 := by
  have hpasses := h.name.passes_sign (fun _ => ne_nil_of_mem_orderSeparators) hheads op v
  have hstrip : stripBrackets (f ++ op.sign ++ v) = f ++ op.sign ++ v := by
    rw [List.append_assoc, h.name.stripBrackets_append]
  rw [split_eq hstrip, pieces_append_of_passes hpasses, h.name.endsEscaped_sign, tokens,
    assemble_text, flush, if_neg (by simp [h.name.ne_nil])]
  rfl

theorem ne_orMark (v : List Char) : f ++ op.sign ++ v ≠ orMark := by
  rw [List.append_assoc]
  exact fun e => h.name.head_ne (op.sign ++ v) (by decide) (congrArg List.head? e)

theorem mem_alternatives_iff (v : List Char) :
    orMark ∈ alternatives (f ++ op.sign ++ v) ↔
      orMark ∈ (assemble true
        (pieces (orderSeparators [orMark]) .start false (Text.trimEnd v))).2 := by
  rw [alternatives, h.body_append, h.split_append true head_orMark, List.mem_cons]
  exact ⟨fun hmem => hmem.resolve_left (h.ne_orMark _).symm, Or.inr⟩

theorem parse_append_of_mem {v : List Char} (now : Instant)
    (hmark : orMark ∈ (assemble true
      (pieces (orderSeparators [orMark]) .start false (Text.trimEnd v))).2) :
    let cut := assemble true (pieces (orderSeparators [orMark]) .start false (Text.trimEnd v))
    cut.1.length < v.length ∧ parse now (f ++ op.sign ++ v) =
      (Reading.sequence (parse now (f ++ op.sign ++ cut.1) ::
        (cut.2.filter (· ≠ orMark)).map (parse now))).map ofBranches := by
  intro cut
  have hmem := (h.mem_alternatives_iff v).2 hmark
  have halternatives : alternatives (f ++ op.sign ++ v) = (f ++ op.sign ++ cut.1) :: cut.2 := by
    rw [alternatives, h.body_append, h.split_append true head_orMark]
  have hlen := length_alternative_add_four_le hmem
    (by rw [halternatives]; exact List.mem_cons_self) (h.ne_orMark cut.1)
  refine ⟨?_, ?_⟩
  · simp only [List.length_append] at hlen
    omega
  · have hkept : decide (f ++ op.sign ++ cut.1 ≠ orMark) = true :=
      decide_eq_true (h.ne_orMark cut.1)
    rw [parse_of_mem hmem, halternatives, List.filter_cons, if_pos hkept, List.map_cons]

theorem parse_append_of_not_mem {v : List Char} (now : Instant)
    (hmark : orMark ∉ (assemble true
      (pieces (orderSeparators [orMark]) .start false (Text.trimEnd v))).2) :
    let cut := assemble false (pieces (orderSeparators termMarks) .start false (Text.trimEnd v))
    parse now (f ++ op.sign ++ v) =
      (Reading.sequence (readTerm now (f ++ op.sign ++ cut.1) :: cut.2.map (readTerm now))).map
        ofTerms := by
  intro cut
  have hmem : orMark ∉ alternatives (f ++ op.sign ++ v) := fun hmem =>
    hmark ((h.mem_alternatives_iff v).1 hmem)
  rw [parse_of_not_mem hmem, h.body_append, h.split_append false head_termMarks, List.map_cons]

/-- The value goes with the head if the signs leave it in one piece. -/
theorem toOption_readTerm_append (now : Instant) (v : List Char) :
    (readTerm now (f ++ op.sign ++ v)).result.toOption =
      match tokens true (pieces (orderSeparators TermOp.signs) .start false v) with
      | [w] => (fieldTerm now (String.ofList f) op (String.ofList w)).result.toOption.map
          (SignedTerm.mk false)
      | _ => none := by
  rw [readTerm, List.append_assoc, h.name.splitMinus_append]
  show ((bodyTerm now _ _).map (SignedTerm.mk false)).result.toOption = _
  rw [Reading.toOption_map, bodyTerm, h.name.split_sign (h.cut v)]
  cases tokens true (pieces (orderSeparators TermOp.signs) .start false v) with
  | nil => rfl
  | cons w ws =>
      cases ws with
      | nil => simp only [TermOp.ofSign?_sign]
      | cons w' ws => rfl

end IsHead

/-- Two heads that ask for the same of every value. -/
structure AskAlike (now : Instant) (f : List Char) (op : TermOp) (g : List Char) (op' : TermOp) :
    Prop where
  left : IsHead f op
  right : IsHead g op'
  same : ∀ w, fieldTerm now (String.ofList f) op w = fieldTerm now (String.ofList g) op' w

/-- Before the same text such heads make the same query, or none. -/
theorem AskAlike.toOption_parse {now : Instant} {f g : List Char} {op op' : TermOp}
    (h : AskAlike now f op g op') (v : List Char) :
    (parse now (f ++ op.sign ++ v)).result.toOption =
      (parse now (g ++ op'.sign ++ v)).result.toOption := by
  -- The first alternative is a shorter text after the same head.
  induction hn : v.length using Nat.strongRecOn generalizing v with
  | _ n ih =>
      by_cases hmark : orMark ∈ (assemble true
          (pieces (orderSeparators [orMark]) .start false (Text.trimEnd v))).2
      · obtain ⟨hlen, hleft⟩ := h.left.parse_append_of_mem now hmark
        obtain ⟨-, hright⟩ := h.right.parse_append_of_mem now hmark
        rw [hleft, hright, Reading.toOption_map, Reading.toOption_map,
          Reading.toOption_sequence_cons, Reading.toOption_sequence_cons,
          ih _ (hn ▸ hlen) _ rfl]
      · rw [h.left.parse_append_of_not_mem now hmark, h.right.parse_append_of_not_mem now hmark,
          Reading.toOption_map, Reading.toOption_map, Reading.toOption_sequence_cons,
          Reading.toOption_sequence_cons, h.left.toOption_readTerm_append,
          h.right.toOption_readTerm_append]
        simp only [h.same]

/-! ## Shortcuts -/

theorem parse_of_areParts {t f v : List Char} {op : TermOp} {c : Condition} {now : Instant}
    (ht : IsPlainTerm t) (hparts : AreParts t [f, op.sign, v])
    (hread : fieldTerm now (String.ofList f) op (String.ofList v) = .pure (.filter c)) :
    (parse now t).result = .ok { condition := .all [c] } := by
  rw [ht.result_parse, ht.readTerm_of_areParts now hparts, hread]
  rfl

theorem parse_shortcut (s : Shortcut) {now : Instant} {c : Condition}
    (hread : s.term now = .pure (.filter c)) :
    (parse now ("is:".toList ++ s.name.toList)).result = .ok { condition := .all [c] } := by
  have hplain : IsPlainTerm ("is:".toList ++ s.name.toList) := by cases s <;> decide
  have hparts : AreParts ("is:".toList ++ s.name.toList)
      ["is".toList, TermOp.colon.sign, s.name.toList] := by
    cases s <;> exact ⟨by decide, by decide, by decide⟩
  refine parse_of_areParts hplain hparts ?_
  rw [String.ofList_toList, String.ofList_toList, fieldTerm, if_neg (by decide), if_pos rfl,
    Shortcut.ofName?_name]
  exact hread

theorem isMatch_equals_iff_exists {card : Card} {field : String} {operand : Operand}
    (hoperand : operand ≠ .null) :
    (Matcher.ofCondition (.all [.field field .equals operand])).isMatch card = true ↔
      ∃ v ∈ (card.find field.toList).values, Match.equalsOperand v operand = true := by
  rw [Matcher.isMatch_ofCondition, Condition.holds_all_singleton, ← Found.equals_iff hoperand]
  rfl

theorem askAlike_due (now : Instant) :
    AskAlike now "due".toList .colon "nextReview".toList .atMost where
  left := ⟨by decide, fun v => by rw [orderSeparators_signs]; rfl⟩
  right := ⟨by decide, fun v => by rw [orderSeparators_signs]; rfl⟩
  same := fun w => rfl

theorem parse_due_forms {now : Instant} (hnow : now.date.isInRange = true) :
    (parse now "is:due".toList).result = .ok { condition := .all [dueBy now] } ∧
    (parse now "nextReview<=NOW".toList).result = .ok { condition := .all [dueBy now] } := by
  constructor
  · refine parse_shortcut .due ?_
    rw [Shortcut.term, compareValue_now]
    rfl
  · have hparts : AreParts "nextReview<=NOW".toList
        ["nextReview".toList, TermOp.atMost.sign, Time.nowName] :=
      ⟨by decide, by decide, by decide⟩
    refine parse_of_areParts (by decide) hparts ?_
    show (compareValue now "nextReview" .atMost _).map Term.filter = _
    rw [compareValue_span rfl (add?_zero_of_isInRange hnow) (Or.inr rfl)]
    rfl

theorem parse_new_forms (now : Instant) :
    (parse now "is:new".toList).result = .ok { condition := .all [.isNull "nextReview"] } ∧
    (parse now "nextReview:NULL".toList).result =
      .ok { condition := .all [.isNull "nextReview"] } := by
  have hparts : AreParts "nextReview:NULL".toList
      ["nextReview".toList, TermOp.colon.sign, nullName.toList] := ⟨by decide, by decide, by decide⟩
  exact ⟨parse_shortcut .new rfl, parse_of_areParts (by decide) hparts rfl⟩

theorem parse_marked_forms (now : Instant) :
    (parse now "is:marked".toList).result =
      .ok { condition := .all [.field "tag" .equals (.text "marked")] } ∧
    (parse now "tag=marked".toList).result =
      .ok { condition := .all [.field "tag" .equals (.text "marked")] } := by
  have hparts : AreParts "tag=marked".toList
      ["tag".toList, TermOp.equal.sign, "marked".toList] := ⟨by decide, by decide, by decide⟩
  exact ⟨parse_shortcut .marked rfl, parse_of_areParts (by decide) hparts rfl⟩

theorem parse_leech_forms (now : Instant) :
    (parse now "is:leech".toList).result =
      .ok { condition := .all [.field "srsLevel" .equals (.number 0)] } ∧
    (parse now "srsLevel=0".toList).result =
      .ok { condition := .all [.field "srsLevel" .equals (.text "0")] } := by
  have hparts : AreParts "srsLevel=0".toList
      ["srsLevel".toList, TermOp.equal.sign, "0".toList] := ⟨by decide, by decide, by decide⟩
  exact ⟨parse_shortcut .leech rfl, parse_of_areParts (by decide) hparts rfl⟩

/-- What shortcuts stand for. The ones for due, new and marked cards and the field `due`
make the very query of their long form. The one for leeches finds the cards with a review
level that is the number zero, and its long form those with one that is the text `0`. -/
theorem shortcuts_mean_long_forms {now : Instant} (hnow : now.date.isInRange = true) :
    (∃ q, (parse now "is:due".toList).result = .ok q ∧
      (parse now "nextReview<=NOW".toList).result = .ok q) ∧
    (∃ q, (parse now "is:new".toList).result = .ok q ∧
      (parse now "nextReview:NULL".toList).result = .ok q) ∧
    (∃ q, (parse now "is:marked".toList).result = .ok q ∧
      (parse now "tag=marked".toList).result = .ok q) ∧
    (∀ v, (parse now ("due:".toList ++ v)).result.toOption =
      (parse now ("nextReview<=".toList ++ v)).result.toOption) ∧
    ∃ leech zero, (parse now "is:leech".toList).result = .ok leech ∧
      (parse now "srsLevel=0".toList).result = .ok zero ∧ ∀ card : Card,
        ((Matcher.ofCondition leech.condition).isMatch card = true ↔
          ∃ v ∈ (card.find "srsLevel".toList).values, v.IsZero) ∧
        ((Matcher.ofCondition zero.condition).isMatch card = true ↔
          .string "0" ∈ (card.find "srsLevel".toList).values) := by
  obtain ⟨hleech, hzero⟩ := parse_leech_forms now
  refine ⟨⟨_, parse_due_forms hnow⟩, ⟨_, parse_new_forms now⟩, ⟨_, parse_marked_forms now⟩,
    (askAlike_due now).toOption_parse, _, _, hleech, hzero, fun card => ⟨?_, ?_⟩⟩
  · refine (isMatch_equals_iff_exists Operand.noConfusion).trans ?_
    simp only [Match.equalsOperand_zero_iff]
  · refine (isMatch_equals_iff_exists Operand.noConfusion).trans ?_
    simp only [Match.equalsOperand_text_iff, exists_eq_right]

/-- A value with alternatives and a quotation, after the field `due` and in the long form. -/
theorem shortcuts_mean_long_forms_alternatives :
    (Instant.ofSeconds 0).date.isInRange = true ∧
    (parse (.ofSeconds 0) ("due:".toList ++ "1d OR \"a b\"".toList)).result.toOption =
      (parse (.ofSeconds 0) ("nextReview<=".toList ++ "1d OR \"a b\"".toList)).result.toOption ∧
    ∃ q, (parse (.ofSeconds 0) "is:leech".toList).result = .ok q ∧
      (Matcher.ofCondition q.condition).isMatch ⟨[("srsLevel", .number (.int 0))]⟩ = true := by
  have hnow : (Instant.ofSeconds 0).date.isInRange = true := by decide
  obtain ⟨-, -, -, hdue, leech, zero, hleech, -, hcards⟩ := shortcuts_mean_long_forms hnow
  refine ⟨hnow, hdue _, leech, hleech, (hcards _).1.2 ⟨.number (.int 0), ?_, rfl⟩⟩
  rw [Card.find_srsLevel]
  exact List.mem_singleton.2 rfl

/-- A card with the review level zero is found as a leech, and not by the long form. -/
theorem leech_not_found_by_long_form :
    ∃ leech zero, (parse (.ofSeconds 0) "is:leech".toList).result = .ok leech ∧
      (parse (.ofSeconds 0) "srsLevel=0".toList).result = .ok zero ∧
      (Matcher.ofCondition leech.condition).isMatch ⟨[("srsLevel", .number (.int 0))]⟩ = true ∧
      (Matcher.ofCondition zero.condition).isMatch
        ⟨[("srsLevel", .number (.int 0))]⟩ = false := by
  obtain ⟨hleech, hzero⟩ := parse_leech_forms (.ofSeconds 0)
  refine ⟨_, _, hleech, hzero, ?_, ?_⟩
  · rw [Matcher.isMatch_ofCondition, Condition.holds_all_singleton, Condition.holds,
      Condition.meets, Card.find_srsLevel]
    rfl
  · rw [Matcher.isMatch_ofCondition, Condition.holds_all_singleton, Condition.holds,
      Condition.meets, Card.find_srsLevel]
    rfl

end Query

end CardSearch
