import CardSearch.Proofs.FieldTerms
import CardSearch.Proofs.LiteralRoom
import CardSearch.Proofs.Matchers

/-!
# What a bare word finds

A word without blanks, signs, quotation marks, brackets and backslashes is one
token for every pass, so a query of that word alone asks for it in the usual
fields and nowhere else. Characters with a meaning in patterns are escaped on
the way and stand for themselves. A card is found when one of the texts that it
shows in those fields, or in a custom field that is searched, holds the word up
to simple case folding.
-/

namespace CardSearch

open Text (OccursFolded)

/-! ## Texts of a card -/

namespace Query

open Time (Instant)

/-- A word that no pass cuts and that has no minus before it; a backslash is a character
like any other here, as it stands before no mark. -/
structure IsWord (w : List Char) : Prop where
  ne_nil : w ≠ []
  trimmed : IsTrimmed w
  unsigned : w.head? ≠ some '-'
  unblank : ∀ c ∈ w, [c] ∉ termMarks
  ungrouped : ∀ c ∈ w, c ∉ ['"', '(', ')']
  unsplit : ∀ c ∈ w, [c] ∉ TermOp.signs

/-- A word without backslashes. -/
structure IsBareWord (w : List Char) : Prop where
  ne_nil : w ≠ []
  trimmed : IsTrimmed w
  unsigned : w.head? ≠ some '-'
  unblank : ∀ c ∈ w, [c] ∉ termMarks
  ungrouped : ∀ c ∈ w, c ∉ ['"', '(', ')', '\\']
  unsplit : ∀ c ∈ w, [c] ∉ TermOp.signs

instance (w : List Char) : Decidable (IsBareWord w) :=
  decidable_of_iff (w ≠ [] ∧ IsTrimmed w ∧ w.head? ≠ some '-' ∧
      w.all (fun c => !termMarks.contains [c] && !(['"', '(', ')', '\\'].contains c) &&
        !TermOp.signs.contains [c]) = true)
    ⟨fun ⟨hne, htrimmed, hhead, hall⟩ => by
        simp only [List.all_eq_true, Bool.and_eq_true, Bool.not_eq_true', List.contains_eq_mem,
          decide_eq_false_iff_not] at hall
        exact ⟨hne, htrimmed, hhead, fun c hc => (hall c hc).1.1, fun c hc => (hall c hc).1.2,
          fun c hc => (hall c hc).2⟩,
      fun h => ⟨h.ne_nil, h.trimmed, h.unsigned, by
        simp only [List.all_eq_true, Bool.and_eq_true, Bool.not_eq_true', List.contains_eq_mem,
          decide_eq_false_iff_not]
        exact fun c hc => ⟨⟨h.unblank c hc, h.ungrouped c hc⟩, h.unsplit c hc⟩⟩⟩

theorem IsBareWord.isWord {w : List Char} (h : IsBareWord w) : IsWord w :=
  { h with ungrouped := fun c hc hmem => h.ungrouped c hc (List.mem_append_left ['\\'] hmem) }

namespace IsWord

variable {w : List Char} (h : IsWord w)

include h

theorem isText {seps : List (List Char)}
    (hheads : ∀ sep ∈ orderSeparators seps, ∀ c ∈ sep.head?, [c] ∈ termMarks ∨ [c] ∈ TermOp.signs) :
    ∀ c ∈ w, Mode.start.IsText (orderSeparators seps) c := by
  intro c hc
  have hgroup := h.ungrouped c hc
  refine isText_start ?_ ?_ fun sep hsep hhead => ?_
  · rintro rfl
    exact hgroup (by decide)
  · rintro rfl
    exact hgroup (by decide)
  · rcases hheads sep hsep c hhead with hmark | hsign
    · exact h.unblank c hc hmark
    · exact h.unsplit c hc hsign

theorem unwrapped : stripBrackets w = w := by
  refine stripBrackets_eq_self fun hhead => ?_
  exact h.ungrouped '(' (List.mem_of_mem_head? hhead) (by decide)

theorem split_eq_singleton {seps : List (List Char)}
    (hheads : ∀ sep ∈ orderSeparators seps, ∀ c ∈ sep.head?, [c] ∈ termMarks ∨ [c] ∈ TermOp.signs)
    (keep : Bool) : split seps keep w = [w] :=
  split_of_isText h.ne_nil h.unwrapped (h.isText hheads) keep

theorem isTermList : IsTermList w where
  unwrapped := h.unwrapped
  unbranched := by
    rw [h.split_eq_singleton fun sep hsep c hc => Or.inl (head_orMark sep hsep c hc),
      List.mem_singleton]
    rintro rfl
    exact h.unblank ' ' (by decide) (by decide)

/-- A query of one word asks for the word in the usual fields. -/
theorem parse_eq (now : Instant) :
    (parse now w).result = .ok { condition := .all [anyOf w] } := by
  have hmarks : ∀ sep ∈ orderSeparators termMarks, ∀ c ∈ sep.head?,
      [c] ∈ termMarks ∨ [c] ∈ TermOp.signs :=
    fun sep hsep c hc => Or.inl (head_termMarks sep hsep c hc)
  have hsigns : ∀ sep ∈ orderSeparators TermOp.signs, ∀ c ∈ sep.head?,
      [c] ∈ termMarks ∨ [c] ∈ TermOp.signs := by
    rw [orderSeparators_signs]
    simp [TermOp.signs, TermOp.all, TermOp.sign]
  have hread : readTerm now w = .pure ⟨false, .filter (anyOf w)⟩ := by
    rw [readTerm, splitMinus_of_head h.unsigned]
    simp only [bodyTerm, h.split_eq_singleton hsigns]
    rfl
  rw [parse_of_isTermList h.trimmed h.isTermList, h.split_eq_singleton hmarks,
    List.map_singleton, hread]
  rfl

end IsWord

theorem IsBareWord.parse_eq {w : List Char} (h : IsBareWord w) (now : Instant) :
    (parse now w).result = .ok { condition := .all [anyOf w] } :=
  h.isWord.parse_eq now

theorem holds_literalPattern_iff {w : List Char} {p : Pattern} {field : String} {card : Card}
    (hp : Pattern.ofString? (String.ofList (Pattern.escape w)) = some p) :
    (Condition.field field .pattern (literalPattern w)).holds card = true ↔
      ∃ v ∈ (card.find field.toList).values, OccursFolded w (Match.textOf v) := by
  have hliteral : p = Pattern.literal w := by
    rw [Pattern.ofString?, String.toList_ofList, Pattern.read?_escape] at hp
    split at hp
    · exact (Option.some.inj hp).symm
    · cases hp
  rw [Condition.holds, Condition.meets]
  show (Pattern.ofString? (String.ofList (Pattern.escape w))).any _ = true ↔ _
  rw [hp, hliteral, Option.any_some, Found.anyText_iff]
  simp only [Pattern.isMatch_literal_iff]

theorem holds_anyOf_iff {w : List Char} {p : Pattern} {card : Card}
    (hp : Pattern.ofString? (String.ofList (Pattern.escape w)) = some p) :
    (anyOf w).holds card = true ↔
      ∃ field ∈ wordFields ++ [anyCustomField], ∃ v ∈ (card.find field.toList).values,
        OccursFolded w (Match.textOf v) := by
  rw [anyOf, Condition.holds_any_iff]
  constructor
  · rintro ⟨c, hc, hholds⟩
    obtain ⟨field, hfield, rfl⟩ := List.mem_map.1 hc
    exact ⟨field, hfield, (holds_literalPattern_iff hp).1 hholds⟩
  · rintro ⟨field, hfield, hfound⟩
    exact ⟨_, List.mem_map_of_mem hfield, (holds_literalPattern_iff hp).2 hfound⟩

end Query

end CardSearch
