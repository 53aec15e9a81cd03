import CardSearch.Proofs.FieldTerms
import CardSearch.Proofs.InstantText
import CardSearch.Proofs.Matchers

/-!
# Queries for due cards

The instant that a query asks about goes through text: the reader of the query
prints it into the condition, and the test reads it back for each card. Nothing
is lost on the way. The text is no whole number, so it is never compared as one,
and it tells the very instant it was printed from (`readInstant?_text`). A next
review that tells an instant, in whichever way, is therefore compared by instant,
and one that is no text at all has no order to the operand. The field is the
card's own, so custom fields play no part.
-/

namespace CardSearch

open Time (Instant)

/-! ## The next review of a card -/

namespace Card

/-- No custom field adds to the next review. -/
theorem find_nextReview (card : Card) :
    card.find "nextReview".toList =
      ((card.fields.lookup "nextReview").map Found.ofValue).getD .absent :=
  column_of_key (by decide) (by decide)

end Card

namespace Match

/-- An operand that is no whole number is compared with values of its own kind only. -/
theorem compareOperand?_text {s : String} (h : readInteger? s = none) (v : Json) :
    compareOperand? v (.text s) = compareAlike? v (.text s) := by
  have hoperand : operandInteger? (.text s) = none := h
  rw [compareOperand?, hoperand]
  cases integer? v <;> rfl

theorem compareAlike?_text_of_not_string {v : Json} (h : ∀ s, v ≠ .string s) (t : String) :
    compareAlike? v (.text t) = none := by
  cases v with
  | string s => exact absurd rfl (h s)
  | null | bool b | number n | array items | object fields => rfl

end Match

/-- Nothing stands in order to a text but what is found as a single text. -/
theorem Found.isOrdered_text_of_not_string {v : Json} (h : ∀ s, v ≠ .string s) {t : String}
    (ht : Match.readInteger? t = none) (p : Ordering → Bool) :
    (Found.ofValue v).isOrdered (.text t) p = false := by
  have hone : (Match.compareOperand? v (.text t)).any p = false := by
    rw [Match.compareOperand?_text ht, Match.compareAlike?_text_of_not_string h]
    rfl
  unfold Found.ofValue
  split
  · rfl
  · rfl
  · rfl
  · exact hone

namespace Query

/-- The condition that the next review is not after an instant. -/
def dueBy (t : Instant) : Condition :=
  .field "nextReview" .atMost (.text (String.ofList t.text))

section Due

variable {t : Instant} (hyear : 0 ≤ t.date.year ∧ t.date.year ≤ 9999) {card : Card}

include hyear

theorem readInteger?_text : Match.readInteger? (String.ofList t.text) = none := by
  rw [Match.readInteger?, String.toList_ofList, Instant.trim_text hyear,
    Instant.readInt64?_text hyear]

/-- A next review that tells an instant is compared by it. -/
theorem holds_dueBy_of_string {s : String} {x : Instant}
    (hs : card.fields.lookup "nextReview" = some (.string s))
    (hx : Instant.ofString? s = some x) : (dueBy t).holds card = x.notAfter t := by
  have hback : Instant.ofString? (String.ofList t.text) = some t := by
    rw [Instant.ofString?, String.toList_ofList, Instant.readInstant?_text hyear]
  have hcompare : Match.compareOperand? (.string s) (.text (String.ofList t.text)) =
      some (x.compare t) := by
    rw [Match.compareOperand?_text (readInteger?_text hyear), Match.compareAlike?,
      Match.compareTexts, hx, hback]
  rw [dueBy, Condition.holds, Condition.meets, Card.find_nextReview, hs]
  show (Match.compareOperand? (.string s) (.text (String.ofList t.text))).any (·.isLE) = _
  rw [hcompare, Option.any_some, Bool.eq_iff_iff, ← Instant.compare_ne_gt_iff]
  exact Ordering.isLE_iff_ne_gt

/-- A next review that is no text is never due. -/
theorem not_holds_dueBy (h : ∀ s, card.fields.lookup "nextReview" ≠ some (.string s)) :
    (dueBy t).holds card = false := by
  rw [dueBy, Condition.holds, Condition.meets, Card.find_nextReview]
  cases hv : card.fields.lookup "nextReview" with
  | none => rfl
  | some v =>
      refine Found.isOrdered_text_of_not_string (fun s hs => h s ?_) (readInteger?_text hyear) _
      rw [hv, hs]

end Due

/-! ## Spans in a query -/

/-- Whether a character is a letter, a digit or a sign of a number. -/
def isSpanChar (c : Char) : Bool := c.isAlpha || c.isDigit || c == '-' || c == '+'

theorem not_mem_of_isSpanChar {c : Char} (hc : isSpanChar c = true) {seps : List (List Char)}
    (hseps : ∀ sep ∈ seps, sep.all (!isSpanChar ·) = true) : [c] ∉ seps := by
  intro hmem
  have hnot := List.all_eq_true.1 (hseps [c] hmem) c List.mem_cons_self
  rw [hc] at hnot
  cases hnot

theorem isBlank_of_isSpanChar {c : Char} (h : isSpanChar c = true) : Text.isBlank c = false := by
  simp only [isSpanChar, Bool.or_eq_true, beq_iff_eq] at h
  rcases h with ((halpha | hdigit) | rfl) | rfl
  · exact Text.isBlank_of_isAlpha halpha
  · exact Text.isBlank_of_isDigit hdigit
  · decide
  · decide

theorem isAlpha_of_ofName? {s : List Char} {unit : Time.SpanUnit}
    (h : Time.SpanUnit.ofName? s = some unit) : s.all (·.isAlpha) = true := by
  unfold Time.SpanUnit.ofName? at h
  split at h
  all_goals first | rfl | cases h

theorem isSpanChar_of_isAlpha {c : Char} (h : c.isAlpha = true) : isSpanChar c = true := by
  rw [isSpanChar, h]
  rfl

theorem isSpanChar_of_isDigit {c : Char} (h : c.isDigit = true) : isSpanChar c = true := by
  rw [isSpanChar, h, Bool.or_true]
  rfl

/-- What is split off as a sign is one. -/
theorem mem_splitSign {d : List Char} {c : Char} (hc : c ∈ d) :
    c ∈ (Time.splitSign d).2 ∨ isSpanChar c = true := by
  unfold Time.splitSign
  split
  · rcases List.mem_cons.1 hc with rfl | hc
    · exact Or.inr rfl
    · exact Or.inl hc
  · rcases List.mem_cons.1 hc with rfl | hc
    · exact Or.inr rfl
    · exact Or.inl hc
  · exact Or.inl hc

/-- A span is written in letters, digits and at most a sign. -/
theorem isSpanChar_of_readSpan? {d : List Char} {n : Int} (h : Time.readSpan? d = some n) :
    ∀ c ∈ d, isSpanChar c = true := by
  by_cases hnow : d = Time.nowName
  · subst hnow
    exact List.all_eq_true.1 (rfl : Time.nowName.all isSpanChar = true)
  · rw [Time.readSpan?, if_neg hnow] at h
    obtain ⟨amount, -, h⟩ := Option.bind_eq_some_iff.1 h
    obtain ⟨unit, hunit, -⟩ := Option.bind_eq_some_iff.1 h
    intro c hc
    rcases mem_splitSign hc with hbody | hsign
    · have hcut := List.takeWhile_append_dropWhile (p := Char.isDigit) (l := (Time.splitSign d).2)
      rw [← hcut] at hbody
      rcases List.mem_append.1 hbody with hdigit | hname
      · exact isSpanChar_of_isDigit (List.mem_takeWhile_imp hdigit)
      · exact isSpanChar_of_isAlpha (List.all_eq_true.1 (isAlpha_of_ofName? hunit) c hname)
    · exact hsign

/-! ## Queries that ask for due cards -/

/-- The queries for the cards that are due a span from now. -/
inductive IsDueQuery (d : List Char) : List Char → Prop where
  | due : IsDueQuery d ("due".toList ++ ':' :: d)
  | nextReview : IsDueQuery d ("nextReview".toList ++ ':' :: d)
  | shortcut (now : d = Time.nowName) : IsDueQuery d ("is".toList ++ ':' :: "due".toList)

/-- A query of a name, a colon and a value in characters of spans. -/
theorem parse_of_fieldTerm {f v : List Char} {c : Condition} (hf : IsName f) (hne : v ≠ [])
    (hv : ∀ c ∈ v, isSpanChar c = true) {now : Instant}
    (h : fieldTerm now (String.ofList f) .colon (String.ofList v) = .pure (.filter c)) :
    (parse now (f ++ ':' :: v)).result = .ok { condition := .all [c] } := by
  have hquote : '"' ∉ v := fun hmem => Text.ne_of_test (hv _ hmem) rfl rfl
  have hkept : KeptBySigns v := Or.inr fun c hc =>
    ⟨Text.ne_of_test (hv c hc) rfl, not_mem_of_isSpanChar (hv c hc) (by decide)⟩
  have hplain : ∀ c ∈ v, c ≠ '"' ∧ c ≠ '(' ∧ [c] ∉ termMarks := fun c hc =>
    ⟨Text.ne_of_test (hv c hc) rfl, Text.ne_of_test (hv c hc) rfl,
      not_mem_of_isSpanChar (hv c hc) (by decide)⟩
  have hlast : ∀ c ∈ v.getLast?, Text.isBlank c = false :=
    fun c hc => isBlank_of_isSpanChar (hv c (List.mem_of_getLast? hc))
  rw [hf.parse_colon hne hplain hlast, hf.readTerm_colon (tokens_signs_of_kept hne hquote hkept), h]
  rfl

/-- A span stands for the instant it leads to, and a colon asks for anything up to it. -/
theorem compareValue_span {now t : Instant} {d : List Char} {n : Int}
    (hspan : Time.readSpan? d = some n) (hadd : now.add? n = some t) {op : TermOp}
    (hop : op = .colon ∨ op = .atMost) :
    compareValue now "nextReview" op (String.ofList d) = .pure (dueBy t) := by
  have hnull : String.ofList d ≠ nullName := by
    intro e
    rw [← String.toList_ofList (l := d), e] at hspan
    cases hspan
  have hinstant : relativeInstant? now (String.ofList d) = some (String.ofList t.text) := by
    rw [relativeInstant?, String.toList_ofList, hspan, Option.bind_some, hadd, Option.map_some]
  have hfield : instantFields.contains "nextReview" = true := by decide
  rw [compareValue, if_neg hnull, compareText]
  simp only [hfield, if_true, hinstant, Option.isSome_some, true_and, Option.getD_some]
  rcases hop with rfl | rfl
  · rfl
  · rfl

/-- The shortcut prints the instant itself, which is no span and stays as it is. -/
theorem compareValue_now (now : Instant) :
    compareValue now "nextReview" .atMost (String.ofList now.text) = .pure (dueBy now) := by
  have hnull : String.ofList now.text ≠ nullName := by
    intro e
    have hlast := now.getLast?_text
    rw [← String.toList_ofList (l := now.text), e] at hlast
    cases hlast
  have hinstant : relativeInstant? now (String.ofList now.text) = none := by
    rw [relativeInstant?, String.toList_ofList, Instant.readSpan?_text, Option.bind_none]
  rw [compareValue, if_neg hnull, compareText]
  simp only [hinstant, ite_self, Option.getD_none]
  rfl

theorem shift_zero (t : Instant) : t.shift 0 = t := by
  unfold Instant.shift
  split
  · exact Instant.eq_of_seconds_of_nanos (Int.add_zero _) rfl
  · rfl

theorem eq_of_add?_zero {now t : Instant} (h : now.add? 0 = some t) : now = t := by
  rw [Instant.add?, shift_zero] at h
  exact Option.some.inj (Option.ite_none_right_eq_some.1 h).2

theorem add?_zero_of_isInRange {now : Instant} (h : now.date.isInRange = true) :
    now.add? 0 = some now := by
  rw [Instant.add?, shift_zero, if_pos h]

theorem add?_zero {now : Instant} (hyear : 0 ≤ now.date.year ∧ now.date.year ≤ 9999) :
    now.add? 0 = some now :=
  add?_zero_of_isInRange (Instant.isInRange_date hyear)

/-- Every query for due cards compares the next review with the instant it asks about. -/
theorem parse_dueQuery {now t : Instant} {d text : List Char} {n : Int}
    (hspan : Time.readSpan? d = some n) (hadd : now.add? n = some t) (h : IsDueQuery d text) :
    (parse now text).result = .ok { condition := .all [dueBy t] } := by
  have hchars := isSpanChar_of_readSpan? hspan
  have hne : d ≠ [] := by
    rintro rfl
    cases hspan
  cases h with
  | due =>
      refine parse_of_fieldTerm (by decide) hne hchars ?_
      show (compareValue now "nextReview" .atMost (String.ofList d)).map Term.filter = _
      rw [compareValue_span hspan hadd (Or.inr rfl)]
      rfl
  | nextReview =>
      refine parse_of_fieldTerm (by decide) hne hchars ?_
      show (compareValue now "nextReview" .colon (String.ofList d)).map Term.filter = _
      rw [compareValue_span hspan hadd (Or.inl rfl)]
      rfl
  | shortcut hnow =>
      subst hnow
      obtain rfl := Option.some.inj hspan
      obtain rfl := eq_of_add?_zero hadd
      have hdue : ∀ c ∈ "due".toList, isSpanChar c = true :=
        List.all_eq_true.1 (by decide : "due".toList.all isSpanChar = true)
      refine parse_of_fieldTerm (by decide) (by decide) hdue ?_
      show (compareValue now "nextReview" .atMost (String.ofList now.text)).map Term.filter = _
      rw [compareValue_now]
      rfl

/-- What the queries for due cards find. The instant they ask about comes back
from its text as it was, and a next review that is text and tells an instant is
compared with it; a card without such a field, or with anything else in it, is
not found. -/
theorem due_queries_compare_instants {now t : Instant} {d : List Char} {n : Int}
    (hspan : Time.readSpan? d = some n) (hadd : now.add? n = some t)
    (hyear : 0 ≤ t.date.year ∧ t.date.year ≤ 9999) :
    Instant.ofString? (String.ofList t.text) = some t ∧
    ∀ text, IsDueQuery d text →
      ∃ q, (parse now text).result = .ok q ∧ q.sortBy = none ∧ q.selection = none ∧
        ∀ card : Card,
          (∀ s x, card.fields.lookup "nextReview" = some (.string s) →
            Instant.ofString? s = some x →
            (Matcher.ofCondition q.condition).isMatch card = x.notAfter t) ∧
          ((∀ s, card.fields.lookup "nextReview" ≠ some (.string s)) →
            (Matcher.ofCondition q.condition).isMatch card = false) := by
  constructor
  · rw [Instant.ofString?, String.toList_ofList, Instant.readInstant?_text hyear]
  · intro text htext
    refine ⟨_, parse_dueQuery hspan hadd htext, rfl, rfl, fun card => ⟨?_, ?_⟩⟩
    · intro s x hs hx
      rw [Matcher.isMatch_ofCondition, Condition.holds_all_singleton]
      exact holds_dueBy_of_string hyear hs hx
    · intro hother
      rw [Matcher.isMatch_ofCondition, Condition.holds_all_singleton]
      exact not_holds_dueBy hyear hother

theorem due_queries_compare_instants_hour_ago :
    Time.readSpan? "-1h".toList = some (-3600) ∧
    Instant.add? (.ofSeconds 0) (-3600) = some (.ofSeconds (-3600)) ∧
    ∃ q, (parse (.ofSeconds 0) ("due".toList ++ ':' :: "-1h".toList)).result = .ok q ∧
      (Matcher.ofCondition q.condition).isMatch
        ⟨[("nextReview", .string "1969-12-31 22:30")]⟩ = true ∧
      (Matcher.ofCondition q.condition).isMatch
        ⟨[("data", .array [.object [("key", .string "nextReview"),
          ("value", .string "1969-12-31")]])]⟩ = false := by
  have hspan : Time.readSpan? "-1h".toList = some (-3600) := by cbv
  have hadd : Instant.add? (.ofSeconds 0) (-3600) = some (.ofSeconds (-3600)) := by cbv
  have hread : Instant.ofString? "1969-12-31 22:30" = some (.ofSeconds (-5400)) := by cbv
  obtain ⟨-, hqueries⟩ := due_queries_compare_instants hspan hadd (by decide)
  obtain ⟨q, hq, -, -, hcards⟩ := hqueries _ .due
  refine ⟨hspan, hadd, q, hq, (hcards _).1 _ _ rfl hread, (hcards _).2 fun s hs => ?_⟩
  cases hs

end Query

end CardSearch
