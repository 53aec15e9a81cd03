import CardSearch.Query.Parser
import Mathlib

/-!
# How deep alternatives nest

Alternatives are read as queries of their own, and quoted or bracketed text in them may hold
alternatives again. Whether a text has alternatives is told by the text of its tokens, and a
token that reads like the mark between alternatives may come from quoted text as well. For
the lengths this makes no difference: the tokens of a text are together no longer than the
text, so a token that is not the mark is shorter than the text by the four characters of the
mark among the others.

All bounds on the nesting come from this one inequality. The readings under way at one time,
each of an alternative of the one before, number at most a quarter of the characters of the
text (`four_mul_length_le_of_isChain`). And what is done with alternatives further down has
no part in the result (`iterate_readLevel_eq_parse`): a reading that gives up at that depth,
in whatever way, gives the query of the text all the same.
-/

namespace CardSearch.Query

open Time (Instant)

/-- A text that is read as a query of its own in the reading of another text. -/
structure IsAlternativeOf (part text : List Char) : Prop where
  mark_mem : orMark ∈ alternatives text
  mem : part ∈ alternatives text
  ne_mark : part ≠ orMark

/-- One level of a reading, in which `read` reads the alternatives. -/
def readLevel (now : Instant) (read : List Char → Reading Query) (text : List Char) :
    Reading Query :=
  if (alternatives text).contains orMark then
    (Reading.sequence (((alternatives text).filter (· ≠ orMark)).map read)).map ofBranches
  else
    (Reading.sequence ((split termMarks false (body text)).map (readTerm now))).map ofTerms

/-! ## Calls -/

theorem IsAlternativeOf.length_add_four_le_length_body {part text : List Char}
    (h : IsAlternativeOf part text) : part.length + 4 ≤ (body text).length :=
  length_alternative_add_four_le_length_body h.mark_mem h.mem h.ne_mark

theorem IsAlternativeOf.length_add_four_le {part text : List Char}
    (h : IsAlternativeOf part text) : part.length + 4 ≤ text.length :=
  length_alternative_add_four_le h.mark_mem h.mem h.ne_mark

theorem IsAlternativeOf.length_lt {part text : List Char} (h : IsAlternativeOf part text) :
    part.length < text.length :=
  Nat.lt_of_lt_of_le (Nat.lt_add_of_pos_right (by decide)) h.length_add_four_le

theorem wellFounded_isAlternativeOf : WellFounded IsAlternativeOf :=
  Subrelation.wf IsAlternativeOf.length_lt (measure List.length).wf

/-- Alternatives nested in each other take four characters of the text each. -/
theorem four_mul_length_le_of_isChain {text : List Char} {nested : List (List Char)}
    (h : (text :: nested).IsChain fun outer inner => IsAlternativeOf inner outer) :
    4 * nested.length ≤ text.length := by
  induction nested generalizing text with
  | nil => exact Nat.zero_le _
  | cons part nested ih =>
      obtain ⟨hpart, hrest⟩ := List.isChain_cons_cons.1 h
      have hshorter := hpart.length_add_four_le
      have hnested := ih hrest
      rw [List.length_cons]
      omega

/-! ## Levels -/

theorem readLevel_congr {now : Instant} {read read' : List Char → Reading Query}
    {text : List Char} (h : ∀ part, IsAlternativeOf part text → read part = read' part) :
    readLevel now read text = readLevel now read' text := by
  unfold readLevel
  split
  · next hmark =>
      rw [List.contains_iff_mem] at hmark
      have hmap : ((alternatives text).filter (· ≠ orMark)).map read =
          ((alternatives text).filter (· ≠ orMark)).map read' := by
        refine List.map_congr_left fun part hpart => ?_
        obtain ⟨hmem, hne⟩ := List.mem_filter.1 hpart
        exact h part ⟨hmark, hmem, of_decide_eq_true hne⟩
      rw [hmap]
  · rfl

theorem parse_eq_readLevel (now : Instant) (text : List Char) :
    parse now text = readLevel now (parse now) text := by
  unfold readLevel
  split
  · next hmark => exact parse_of_mem (List.contains_iff_mem.1 hmark)
  · next hmark => exact parse_of_not_mem (mt List.contains_iff_mem.2 hmark)

/-- With more levels than a quarter of the characters, it does not matter how a text is read
further down. -/
theorem iterate_readLevel_eq_parse {n : Nat} {text : List Char} (h : text.length < 4 * n)
    (now : Instant) (read : List Char → Reading Query) :
    (readLevel now)^[n] read text = parse now text := by
  induction n generalizing text with
  | zero => exact absurd h (Nat.not_lt_zero _)
  | succ n ih =>
      rw [Function.iterate_succ_apply', parse_eq_readLevel]
      -- The alternatives are short enough for one level less.
      refine readLevel_congr fun part hpart => ih ?_
      have hshorter := hpart.length_add_four_le
      omega

/-- Reading a query comes to an end. An alternative is shorter than the text it is cut from
by four characters at least, wherever the mark among the tokens comes from. So alternatives
do not nest without end, and not deeper than a quarter of the characters of the text; and
as many levels and one more give the query of the text, in whatever way alternatives below
them would be read. -/
theorem alternatives_nest_within_quarter :
    (∀ part text, IsAlternativeOf part text →
      part.length + 4 ≤ (body text).length ∧ (body text).length ≤ text.length) ∧
    WellFounded IsAlternativeOf ∧
    (∀ text nested, ((text :: nested).IsChain fun outer inner => IsAlternativeOf inner outer) →
      4 * nested.length ≤ text.length) ∧
    ∀ now read text, (readLevel now)^[text.length / 4 + 1] read text = parse now text := by
  refine ⟨fun part text hpart => ⟨hpart.length_add_four_le_length_body, length_body_le text⟩,
    wellFounded_isAlternativeOf, fun text nested => four_mul_length_le_of_isChain,
    fun now read text => iterate_readLevel_eq_parse ?_ now read⟩
  omega

/-- Quoted alternatives are read two levels down, and a quoted mark counts as one. -/
theorem alternatives_nest_within_quarter_quoted :
    IsAlternativeOf "a".toList "\" OR \" OR a".toList ∧
    1 + 4 ≤ (body "\" OR \" OR a".toList).length ∧
    ["\"a OR b\" OR c".toList, "a OR b".toList, "a".toList].IsChain
      (fun outer inner => IsAlternativeOf inner outer) ∧
    4 * 2 ≤ "\"a OR b\" OR c".toList.length ∧
    (readLevel (.ofSeconds 0))^[4] (fun _ => .pure { condition := .everything })
        "\"a OR b\" OR c".toList =
      parse (.ofSeconds 0) "\"a OR b\" OR c".toList := by
  have hmarked : alternatives "\" OR \" OR a".toList = [orMark, orMark, "a".toList] := by cbv
  have houter : alternatives "\"a OR b\" OR c".toList =
      ["a OR b".toList, orMark, "c".toList] := by cbv
  have hinner : alternatives "a OR b".toList = ["a".toList, orMark, "b".toList] := by cbv
  have hbranch : IsAlternativeOf "a".toList "\" OR \" OR a".toList :=
    ⟨by rw [hmarked]; decide, by rw [hmarked]; decide, by decide⟩
  have hchain : ["\"a OR b\" OR c".toList, "a OR b".toList, "a".toList].IsChain
      (fun outer inner => IsAlternativeOf inner outer) :=
    .cons_cons ⟨by rw [houter]; decide, by rw [houter]; decide, by decide⟩
      (.cons_cons ⟨by rw [hinner]; decide, by rw [hinner]; decide, by decide⟩ (.singleton _))
  obtain ⟨hshorter, -, hdepth, hlevels⟩ := alternatives_nest_within_quarter
  exact ⟨hbranch, (hshorter _ _ hbranch).1, hchain, hdepth _ _ hchain,
    hlevels (.ofSeconds 0) _ "\"a OR b\" OR c".toList⟩

end CardSearch.Query
