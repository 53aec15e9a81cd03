import CardSearch.Proofs.QueryText
import CardSearch.Proofs.Readings

/-!
# The terms of a query in reading order

Alternatives may hold alternatives again, so a query text is read as a tree whose
leaves are lists of terms. For much of what a reader wants to know the tree does
not matter: an error is that of the first term that has one, warnings come in the
order of the terms, and the condition asks what its terms ask. `termsOf` lists
the terms from left to right, and `agree_terms` is the statement that reading a
query is reading that list.
-/

namespace CardSearch

namespace Condition

theorem tests_all (parts : List Condition) : (all parts).tests = parts.flatMap tests := by
  rw [tests, testsOfParts_eq_flatMap]

theorem tests_any (parts : List Condition) : (any parts).tests = parts.flatMap tests := by
  rw [tests, testsOfParts_eq_flatMap]

theorem tests_of_isEverything {c : Condition} (h : c.isEverything = true) : c.tests = [] := by
  unfold isEverything at h
  split at h
  · rfl
  · cases h

end Condition

namespace Query

open Time (Instant)

theorem length_lt_of_mem_alternatives {text part : List Char}
    (hmark : orMark ∈ alternatives text)
    (hpart : part ∈ (alternatives text).filter (· ≠ orMark)) : part.length < text.length := by
  obtain ⟨hmem, hne⟩ := List.mem_filter.1 hpart
  have hshorter := length_alternative_add_four_le hmark hmem (of_decide_eq_true hne)
  omega

/-- The terms of a text from left to right, those of its alternatives one after the other. -/
def termsOf (text : List Char) : List (List Char) :=
  if hmark : orMark ∈ alternatives text then
    ((alternatives text).filter (· ≠ orMark)).attach.flatMap fun part =>
      have := length_lt_of_mem_alternatives hmark part.2
      termsOf part.1
  else split termMarks false (body text)
termination_by text.length

theorem termsOf_of_mem {text : List Char} (h : orMark ∈ alternatives text) :
    termsOf text = ((alternatives text).filter (· ≠ orMark)).flatMap termsOf := by
  rw [termsOf, dif_pos h]
  simp

theorem termsOf_of_not_mem {text : List Char} (h : orMark ∉ alternatives text) :
    termsOf text = split termMarks false (body text) := by
  rw [termsOf, dif_neg h]

/-- What a term asks of single cards, leaf by leaf. -/
def SignedTerm.tests (t : SignedTerm) : List FieldTest :=
  (t.condition?.map Condition.tests).getD []

theorem tests_ofTerms (ts : List SignedTerm) :
    (ofTerms ts).condition.tests = ts.flatMap SignedTerm.tests := by
  show (Condition.all (ts.filterMap (·.condition?))).tests = _
  rw [Condition.tests_all]
  induction ts with
  | nil => rfl
  | cons t ts ih =>
      rw [List.flatMap_cons, ← ih, SignedTerm.tests]
      cases ht : t.condition? with
      | none => rw [List.filterMap_cons_none ht]; rfl
      | some c => rw [List.filterMap_cons_some ht, List.flatMap_cons]; rfl

/-- A branch that is left out asks nothing of single cards. -/
theorem tests_ofBranches (qs : List Query) :
    (ofBranches qs).condition.tests = qs.flatMap (·.condition.tests) := by
  have hkept : (anyBranch qs).tests =
      (qs.filter (!·.isDirective)).flatMap (·.condition.tests) := by
    unfold anyBranch
    split
    · next hnone => rw [hnone]; rfl
    · rw [Condition.tests_any, List.flatMap_map]
  show (anyBranch qs).tests = _
  rw [hkept]
  clear hkept
  induction qs with
  | nil => rfl
  | cons q qs ih =>
      rw [List.flatMap_cons, ← ih]
      cases hq : q.isDirective with
      | false => rw [List.filter_cons_of_pos (by rw [hq]; rfl), List.flatMap_cons]
      | true =>
          have heverything := (Bool.and_eq_true_iff.1 hq).1
          rw [List.filter_cons_of_neg (by rw [hq]; decide),
            Condition.tests_of_isEverything heverything, List.nil_append]

/-! ## Reading the list of terms -/

/-- Reading a query gives the error and the warnings of its terms in a row, and
where there is no error, a condition whose leaves are those of the terms. -/
theorem agree_terms (now : Instant) (text : List Char) :
    Reading.Agree (fun ts q => q.condition.tests = ts.flatMap SignedTerm.tests)
      (Reading.sequence ((termsOf text).map (readTerm now))) (parse now text) := by
  induction text using termsOf.induct with
  | case1 text hmark ih =>
      have hrows : (termsOf text).map (readTerm now) =
          ((alternatives text).filter (· ≠ orMark)).flatMap
            fun part => (termsOf part).map (readTerm now) := by
        rw [termsOf_of_mem hmark, List.map_flatMap]
      have hbranches : Reading.Agree
          (fun ts qs => qs.flatMap (·.condition.tests) = ts.flatMap SignedTerm.tests)
          (Reading.sequence (((alternatives text).filter (· ≠ orMark)).flatMap
            fun part => (termsOf part).map (readTerm now)))
          (Reading.sequence (((alternatives text).filter (· ≠ orMark)).map (parse now))) :=
        .sequence_flatMap fun part hpart => ih ⟨part, hpart⟩
      rw [hrows, parse_of_mem hmark, ← Reading.map_id (Reading.sequence (List.flatMap _ _))]
      exact hbranches.map fun ts qs hqs => (tests_ofBranches qs).trans hqs
  | case2 text hmark =>
      rw [termsOf_of_not_mem hmark, parse_of_not_mem hmark]
      exact .of_map _ fun ts => tests_ofTerms ts

end Query

end CardSearch
