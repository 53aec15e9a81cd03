import CardSearch.Proofs.FieldTerms
import CardSearch.Proofs.KeptText
import CardSearch.Proofs.Negation

/-!
# Backslashes protect a value on every level

A quotation mark protects a value from the first pass that cuts only, because it
is gone for the next one. A backslash stays where it is: it takes the meaning of
the character after it away and goes into the token with it, so the next pass
finds it again. A value in which a backslash stands before every mark therefore
goes through the alternatives, the blanks and the signs as it is written
(`passes_of_shielded`), and the term looks for it with all its backslashes.

Every pass looks one character back and no further. Of two backslashes in a row
the second one shields what comes after it just the same.
-/

namespace CardSearch.Query

open Time (Instant)

/-- The characters that quote or group, or with which a separator begins. -/
def markChars : List Char := ['"', '(', ')', ' ', '\t', '\n', ':', '>', '<', '=', '~']

/-- A value with a backslash right before every mark. -/
structure IsEscapedValue (v : List Char) : Prop where
  ne_nil : v ≠ []
  present : v ≠ nullName.toList
  trimmed : IsTrimmed v
  shielded : ∀ n c, v[n]? = some c → c ∈ markChars → isShieldedAt v n = true

instance (v : List Char) : Decidable (IsEscapedValue v) :=
  decidable_of_iff (v ≠ [] ∧ v ≠ nullName.toList ∧ IsTrimmed v ∧
      ∀ n < v.length, (v[n]?.any fun c => markChars.contains c) → isShieldedAt v n = true)
    ⟨fun ⟨hne, hnull, htrimmed, hall⟩ => ⟨hne, hnull, htrimmed, fun n c hc hmem =>
        hall n (List.getElem?_eq_some_iff.1 hc).1 (by simpa [hc] using hmem)⟩,
      fun h => ⟨h.ne_nil, h.present, h.trimmed, fun n _ hany => by
        obtain ⟨c, hc, hmem⟩ := (Option.any_eq_true _ _).1 hany
        exact h.shielded n c hc (by simpa using hmem)⟩⟩

/-! ## Shielded marks pass -/

/-- Marks with a backslash before them are text for any separators that begin with a mark. -/
theorem passes_of_shielded {seps : List (List Char)} {escaped : Bool} {s : List Char}
    (hne : ∀ sep ∈ seps, sep ≠ []) (hheads : ∀ sep ∈ seps, ∀ c ∈ sep.head?, c ∈ markChars)
    (h : ∀ n c, s[n]? = some c → c ∈ markChars → endsEscaped escaped (s.take n) = true)
    (rest : List Char) : Passes seps .start rest escaped s := by
  induction s generalizing escaped with
  | nil => exact True.intro
  | cons c s ih =>
      have hfirst : c ∈ markChars → escaped = true := h 0 c rfl
      have hlater := ih fun n d hd hmem => h (n + 1) d hd hmem
      cases escaped with
      | true => exact ⟨rfl, rfl, hlater⟩
      | false =>
          have hplain : c ∉ markChars := fun hmem => Bool.noConfusion (hfirst hmem)
          have htext : Mode.start.IsText seps c :=
            isText_start (fun e => hplain (e ▸ by decide)) (fun e => hplain (e ▸ by decide))
              fun sep hsep hhead => hplain (hheads sep hsep c hhead)
          exact ⟨htext.1 false, separatorIn?_eq_none hne htext.2 false (s ++ rest), hlater⟩

/-- Where a text passes the blanks, every blank between terms in it is escaped. -/
theorem shielded_of_passes {escaped : Bool} {s : List Char}
    (h : Passes termMarks .start [] escaped s) : Shielded .start escaped s := by
  induction s generalizing escaped with
  | nil => exact True.intro
  | cons c s ih =>
      obtain ⟨hmode, hsep, hs⟩ := h
      refine ⟨fun hmem => Or.inr ?_, by rw [hmode]; exact ih hs⟩
      cases escaped with
      | true => rfl
      | false =>
          have hnone : separatorAt? termMarks (c :: (s ++ [])) = none := hsep
          have hnot := List.find?_eq_none.1 hnone [c] hmem
          exact absurd (List.isPrefixOf_iff_prefix.2 ⟨s ++ [], rfl⟩) hnot

theorem mem_markChars_of_termMarks {c : Char} (h : [c] ∈ termMarks) : c ∈ markChars := by
  simp only [termMarks, List.mem_cons, List.cons.injEq, and_true, List.not_mem_nil, or_false] at h
  rcases h with rfl | rfl | rfl <;> decide

theorem head_signs : ∀ sep ∈ orderSeparators TermOp.signs, ∀ c ∈ sep.head?, c ∈ markChars := by
  rw [orderSeparators_signs]
  simp [markChars]

theorem IsEscapedValue.passes {seps : List (List Char)} {v : List Char} (hv : IsEscapedValue v)
    (hne : ∀ sep ∈ seps, sep ≠ []) (hheads : ∀ sep ∈ seps, ∀ c ∈ sep.head?, c ∈ markChars)
    (rest : List Char) : Passes seps .start rest false v := by
  refine passes_of_shielded hne hheads (fun n c hc hmem => ?_) rest
  rw [← isShieldedAt_eq_endsEscaped]
  exact hv.shielded n c hc hmem

/-! ## A field, a colon and an escaped value -/

section Term

variable {f v : List Char} (hf : IsPlainField f) (hv : IsEscapedValue v)

include hf hv

theorem passes_escapedTerm {seps : List (List Char)} (hne : ∀ sep ∈ seps, sep ≠ [])
    (hheads : ∀ sep ∈ seps, ∀ c ∈ sep.head?, [c] ∈ termMarks) :
    Passes seps .start [] false (f ++ ':' :: v) := by
  have hcut : f ++ ':' :: v = (f ++ TermOp.colon.sign) ++ v := by simp [TermOp.sign]
  rw [hcut]
  refine passes_append (hf.isName.passes_sign hne hheads .colon _) ?_
  rw [hf.isName.endsEscaped_sign]
  exact hv.passes hne (fun sep hsep c hc => mem_markChars_of_termMarks (hheads sep hsep c hc)) []

theorem split_escapedTerm {seps : List (List Char)} (keep : Bool)
    (hheads : ∀ sep ∈ orderSeparators seps, ∀ c ∈ sep.head?, [c] ∈ termMarks) :
    split seps keep (f ++ ':' :: v) = [f ++ ':' :: v] := by
  have hpasses := passes_escapedTerm hf hv (fun _ => ne_nil_of_mem_orderSeparators) hheads
  rw [split_eq (hf.isName.stripBrackets_append _), pieces_of_passes hpasses, tokens_text, flush,
    if_neg (by simp)]

theorem isSingleTerm_escapedTerm : IsSingleTerm (f ++ ':' :: v) (f ++ ':' :: v) where
  trimmed := hf.isName.isTrimmed_colon hv.ne_nil hv.trimmed.last
  terms := by
    refine ⟨hf.isName.stripBrackets_append _, ?_⟩
    rw [split_escapedTerm hf hv true head_orMark, List.mem_singleton]
    intro e
    exact hf.isName.head_ne (':' :: v) (by decide) (congrArg List.head? e.symm)
  shielded := by
    have hpasses := passes_escapedTerm hf hv (fun _ => ne_nil_of_mem_orderSeparators)
      head_termMarks
    rw [orderSeparators_termMarks] at hpasses
    exact shielded_of_passes hpasses
  token := split_escapedTerm hf hv false head_termMarks
  unsigned := hf.isName.head_ne (':' :: v) (by decide)

theorem bodyTerm_escapedTerm (now : Instant) (term : List Char) :
    bodyTerm now term (f ++ ':' :: v) = .pure (.filter (literalTest f v)) := by
  have hpieces := pieces_of_passes (hv.passes (fun _ => ne_nil_of_mem_orderSeparators) head_signs [])
  have hsplit : split TermOp.signs true (f ++ ':' :: v) = [f, TermOp.colon.sign, v] := by
    rw [hf.isName.split_signs, hpieces, tokens_text, flush, if_neg hv.ne_nil]
    rfl
  rw [bodyTerm_of_split hsplit, hf.fieldTerm_colon, if_neg hv.present]

end Term

/-- A value with a backslash before every mark is looked for as it is written,
backslashes included, and with a minus before the term it is looked for to be missing. -/
theorem escaped_value_kept {f v : List Char} (hf : IsPlainField f) (hv : IsEscapedValue v)
    (now : Instant) :
    (parse now (f ++ ':' :: v)).result = .ok { condition := .all [literalTest f v] } ∧
    (parse now ('-' :: (f ++ ':' :: v))).result =
      .ok { condition := .all [.not (literalTest f v)] } := by
  have hterm := isSingleTerm_escapedTerm hf hv
  have hread : (parse now (f ++ ':' :: v)).result =
      .ok { condition := .all [literalTest f v] } :=
    hterm.parse_ok_iff.2 ⟨_, by rw [bodyTerm_escapedTerm hf hv]; rfl, rfl⟩
  exact ⟨hread, (hterm.minus_of_condition hread rfl).2⟩

/-- Signs of two characters, a mark between alternatives, brackets, a quotation mark, and
two backslashes in a row. -/
theorem escaped_value_kept_all_marks :
    IsPlainField "front".toList ∧ IsEscapedValue "\\>\\=\\ OR\\ \\(\\\"\\\\:\\\\".toList ∧
    (parse (.ofSeconds 0) ('-' :: "front:\\>\\=\\ OR\\ \\(\\\"\\\\:\\\\".toList)).result =
      .ok { condition := .all [.not (.field "front" .pattern
        (literalPattern "\\>\\=\\ OR\\ \\(\\\"\\\\:\\\\".toList))] } := by
  have hf : IsPlainField "front".toList := by decide
  have hv : IsEscapedValue "\\>\\=\\ OR\\ \\(\\\"\\\\:\\\\".toList := by decide
  exact ⟨hf, hv, (escaped_value_kept hf hv (.ofSeconds 0)).2⟩

end CardSearch.Query
