import CardSearch.Proofs.Scan
import CardSearch.Query.Parser
import Mathlib.Data.List.Permutation

/-!
# Query texts as they stand

Before a query text is split it is trimmed and a pair of brackets around it is
taken off. The statements about queries put together from parts are about texts
to which neither happens, so that the splitter sees the very text that is
written down. A text of this kind without alternatives is a list of terms, and
`parse_of_isTermList` is then the only thing to know about `parse`.
-/

namespace CardSearch.Query

open Text (isBlank trim trimStart trimEnd)
open Time (Instant)

theorem trim_sublist (s : List Char) : (trim s).Sublist s := by
  have hend : (trim s).reverse.Sublist (trimStart s).reverse := by
    rw [trim, trimEnd, List.reverse_reverse]
    exact List.dropWhile_sublist isBlank
  exact (List.reverse_sublist.1 hend).trans (List.dropWhile_sublist isBlank)

theorem isBlank_last_trim {s : List Char} : ∀ c ∈ (trim s).getLast?, isBlank c = false := by
  intro c hc
  rw [trim, trimEnd, List.getLast?_reverse] at hc
  have hnot := List.head?_dropWhile_not isBlank (trimStart s).reverse
  rw [hc] at hnot
  exact hnot

theorem body_sublist (s : List Char) : (body s).Sublist s :=
  (stripBrackets_sublist (trim s)).trans (trim_sublist s)

/-- No blank at either end. -/
structure IsTrimmed (s : List Char) : Prop where
  first : ∀ c ∈ s.head?, isBlank c = false
  last : ∀ c ∈ s.getLast?, isBlank c = false

instance (s : List Char) : Decidable (IsTrimmed s) :=
  decidable_of_iff (s.head?.all (!isBlank ·) = true ∧ s.getLast?.all (!isBlank ·) = true)
    ⟨fun h => ⟨by simpa [Option.all_eq_true] using h.1, by simpa [Option.all_eq_true] using h.2⟩,
      fun h => ⟨by simpa [Option.all_eq_true] using h.first,
        by simpa [Option.all_eq_true] using h.last⟩⟩

/-- A text that is not wrapped in brackets and has no mark between alternatives
outside quotes and groups. -/
structure IsTermList (s : List Char) : Prop where
  unwrapped : stripBrackets s = s
  unbranched : orMark ∉ split [orMark] true s

theorem IsTrimmed.join {s t : List Char} (hs : IsTrimmed s) (ht : IsTrimmed t) (hs' : s ≠ [])
    (ht' : t ≠ []) (between : List Char) : IsTrimmed (s ++ between ++ t) where
  first := by
    obtain ⟨c, s, rfl⟩ := List.exists_cons_of_ne_nil hs'
    exact hs.first
  last := by
    rw [List.getLast?_append, List.getLast?_eq_some_getLast ht', Option.some_or,
      ← List.getLast?_eq_some_getLast ht']
    exact ht.last

theorem IsTrimmed.body {s : List Char} (h : IsTrimmed s) : body s = stripBrackets s := by
  rw [Query.body, Text.trim_eq_self h.first h.last]

theorem split_eq {s : List Char} (h : stripBrackets s = s) (seps : List (List Char))
    (keep : Bool) :
    split seps keep s = tokens keep (pieces (orderSeparators seps) .start false s) := by
  rw [split, h]

theorem orderSeparators_termMarks : orderSeparators termMarks = termMarks := by cbv

theorem orderSeparators_orMark : orderSeparators [orMark] = [orMark] := by cbv

theorem orderSeparators_signs : orderSeparators TermOp.signs =
    [['>', '='], ['<', '='], [':'], ['>'], ['<'], ['='], ['~']] := by cbv

/-- A text of nothing but characters of tokens is one token. -/
theorem split_of_isText {seps : List (List Char)} {s : List Char} (hne : s ≠ [])
    (hstrip : stripBrackets s = s)
    (htext : ∀ c ∈ s, Mode.start.IsText (orderSeparators seps) c) (keep : Bool) :
    split seps keep s = [s] := by
  rw [split_eq hstrip,
    pieces_of_passes (passes_of_isText (fun _ => ne_nil_of_mem_orderSeparators) htext []),
    tokens_text, flush, if_neg hne]

theorem splitMinus_of_head {u : List Char} (h : u.head? ≠ some '-') :
    splitMinus u = (false, u) := by
  unfold splitMinus
  split
  · exact absurd rfl h
  · rfl

/-- A text without alternatives is read term by term. -/
theorem parse_of_isTermList {s : List Char} (hs : IsTrimmed s) (h : IsTermList s)
    (now : Instant) :
    parse now s =
      (Reading.sequence ((split termMarks false s).map (readTerm now))).map ofTerms := by
  have hbody : body s = s := hs.body.trans h.unwrapped
  have hmark : orMark ∉ alternatives s := by
    rw [alternatives, hbody]
    exact h.unbranched
  rw [parse_of_not_mem hmark, hbody]

end CardSearch.Query
