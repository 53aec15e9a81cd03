import CardSearch.Text.Line
import CardSearch.Text.Parts
import Mathlib

/-!
# Reading lines back from a text

A report is written line by line, each line ended by a line feed, and a reader
cuts it at the line feeds again. The cut gives the lines themselves as long as
none of them holds a line feed of its own (`parts_ofLines_of_not_mem`), and then
the lines are told by the text (`ofLines_injective`). A line that does hold one is
cut in pieces, and the text has more lines than were written: it has as many as
were written in no other case (`isLines_ofLines_iff`).
-/

namespace CardSearch.Text

theorem length_growFirst {ps : List (List Char)} (h : ps ≠ []) (c : Char) :
    (growFirst c ps).length = ps.length := by
  cases ps with
  | nil => exact absurd rfl h
  | cons part rest => rfl

theorem length_parts (mark : Char) (s : List Char) :
    (parts mark s).length = s.count mark + 1 := by
  induction s with
  | nil => rfl
  | cons c rest ih =>
      rw [parts, List.count_cons]
      by_cases hc : c = mark
      · simp [hc, ih]
      · rw [if_neg hc, length_growFirst (parts_ne_nil mark rest), ih]
        simp [hc]

theorem parts_ofLines (lines : List (List Char)) :
    parts '\n' (ofLines lines) = lines.flatMap (parts '\n') ++ [[]] := by
  induction lines with
  | nil => rfl
  | cons line rest ih =>
      rw [ofLines_cons, parts_append_mark, ih, List.flatMap_cons, List.append_assoc]

theorem parts_ofLines_of_not_mem {lines : List (List Char)} (h : ∀ l ∈ lines, '\n' ∉ l) :
    parts '\n' (ofLines lines) = lines ++ [[]] := by
  rw [parts_ofLines]
  congr 1
  induction lines with
  | nil => rfl
  | cons line rest ih =>
      rw [List.flatMap_cons, parts_eq_singleton (h line List.mem_cons_self),
        ih fun l hl => h l (List.mem_cons_of_mem line hl)]
      rfl

theorem ofLines_injective {lines lines' : List (List Char)} (h : ∀ l ∈ lines, '\n' ∉ l)
    (h' : ∀ l ∈ lines', '\n' ∉ l) (heq : ofLines lines = ofLines lines') : lines = lines' := by
  have hparts := congrArg (parts '\n') heq
  rw [parts_ofLines_of_not_mem h, parts_ofLines_of_not_mem h'] at hparts
  exact List.append_cancel_right hparts

/-! ## The number of lines -/

/-- Exactly so many lines, each ended by a line feed. -/
def IsLines (n : Nat) (t : List Char) : Prop :=
  ∃ lines, lines.length = n ∧ (∀ l ∈ lines, '\n' ∉ l) ∧ ofLines lines = t

theorem IsLines.count_eq {n : Nat} {t : List Char} (h : IsLines n t) : t.count '\n' = n := by
  obtain ⟨lines, rfl, hlines, rfl⟩ := h
  have hparts := congrArg List.length (parts_ofLines_of_not_mem hlines)
  rw [length_parts, List.length_append, List.length_singleton] at hparts
  omega

theorem count_ofLines (lines : List (List Char)) :
    (ofLines lines).count '\n' = lines.length + (lines.map (·.count '\n')).sum := by
  induction lines with
  | nil => rfl
  | cons line rest ih =>
      simp only [ofLines_cons, List.count_append, List.count_cons, ih, List.length_cons,
        List.map_cons, List.sum_cons, beq_self_eq_true, if_true]
      omega

/-- As many lines as were written are there if none of them breaks in two. -/
theorem isLines_ofLines_iff (lines : List (List Char)) :
    IsLines lines.length (ofLines lines) ↔ ∀ l ∈ lines, '\n' ∉ l := by
  constructor
  · intro h l hl hmem
    have hcount := h.count_eq
    rw [count_ofLines] at hcount
    have hsum : (lines.map (·.count '\n')).sum = 0 := by omega
    have hzero := List.sum_eq_zero_iff_forall_eq_nat.1 hsum _ (List.mem_map_of_mem hl)
    exact List.count_eq_zero.1 hzero hmem
  · intro h
    exact ⟨lines, rfl, h, rfl⟩

/-! ## The last line -/

/-- The text ends with a line that stands alone. -/
def HasLastLine (t line : List Char) : Prop := ∃ above, t = ofLines (above ++ [line])

theorem HasLastLine.unique {t line line' : List Char} (h : HasLastLine t line)
    (h' : HasLastLine t line') (hline : '\n' ∉ line) (hline' : '\n' ∉ line') : line = line' := by
  obtain ⟨above, rfl⟩ := h
  obtain ⟨above', heq⟩ := h'
  have hparts := congrArg (parts '\n') heq
  rw [parts_ofLines, parts_ofLines, List.flatMap_append, List.flatMap_append,
    List.flatMap_singleton, List.flatMap_singleton, parts_eq_singleton hline,
    parts_eq_singleton hline'] at hparts
  have hlast := List.append_cancel_right hparts
  simpa using (List.append_inj' hlast rfl).2

end CardSearch.Text
