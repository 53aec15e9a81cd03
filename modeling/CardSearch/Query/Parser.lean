import CardSearch.Query.Term
import CardSearch.Text.Blank

/-!
# Reading queries

A query is a list of terms between blanks, all of which have to hold, or several
such lists with ` OR ` between them. Brackets around the whole change nothing.
Each alternative is read as a query of its own; it is shorter than the text it is
taken from by the four characters of the mark at least, so the reading ends.
-/

namespace CardSearch.Query

open Text (trim)
open Time (Instant)

/-- What stands between alternatives. -/
def orMark : List Char := [' ', 'O', 'R', ' ']

/-- What stands between terms. -/
def termMarks : List (List Char) := [[' '], ['\t'], ['\n']]

/-- The order and selection of a query, where it sets them, in place of earlier ones. -/
def takeDirectives (q branch : Query) : Query :=
  { q with
    sortBy := branch.sortBy.or q.sortBy
    descending := if branch.sortBy.isSome then branch.descending else q.descending
    selection := branch.selection.or q.selection }

/-- What a term asks of single cards. -/
def SignedTerm.condition? (t : SignedTerm) : Option Condition :=
  match t.term with
  | .filter c => some (if t.negated then .not c else c)
  | _ => none

/-- The order or selection that a term sets, as a query. -/
def SignedTerm.directives (t : SignedTerm) : Query :=
  match t.term with
  | .filter _ => { condition := .everything }
  | .sort field => { condition := .everything, sortBy := some field, descending := t.negated }
  | .select s => { condition := .everything, selection := some s }

/-- The order and selection of several queries, the last one that sets them counting. -/
def lastDirectives (qs : List Query) : Query := qs.foldl takeDirectives { condition := .everything }

/-- The query of a list of terms. -/
def ofTerms (ts : List SignedTerm) : Query :=
  { lastDirectives (ts.map (·.directives)) with condition := .all (ts.filterMap (·.condition?)) }

/-- The condition of alternatives; one that asks nothing of single cards is none. -/
def anyBranch (branches : List Query) : Condition :=
  match branches.filter (!·.isDirective) with
  | [] => .everything
  | kept => .any (kept.map (·.condition))

/-- The query of a list of alternatives. -/
def ofBranches (branches : List Query) : Query :=
  { lastDirectives branches with condition := anyBranch branches }

/-- The text of a query without blanks and brackets around it. -/
def body (text : List Char) : List Char := stripBrackets (trim text)

/-- The alternatives of a text and the marks between them. -/
def alternatives (text : List Char) : List (List Char) := split [orMark] true (body text)

theorem length_body_le (text : List Char) : (body text).length ≤ text.length :=
  Nat.le_trans (length_stripBrackets_le _) (Text.length_trim_le text)

/-- An alternative is shorter than the text it is cut from by the length of a mark, of which
there is one among the tokens. -/
theorem length_alternative_add_four_le_length_body {text part : List Char}
    (hmark : orMark ∈ alternatives text) (hpart : part ∈ alternatives text)
    (hne : part ≠ orMark) : part.length + 4 ≤ (body text).length :=
  Nat.le_trans (length_add_length_le_flatten hpart hmark hne)
    (length_flatten_split_le [orMark] true (body text))

theorem length_alternative_add_four_le {text part : List Char} (hmark : orMark ∈ alternatives text)
    (hpart : part ∈ alternatives text) (hne : part ≠ orMark) : part.length + 4 ≤ text.length :=
  Nat.le_trans (length_alternative_add_four_le_length_body hmark hpart hne) (length_body_le text)

/-- The query that a text stands for. -/
def parse (now : Instant) (text : List Char) : Reading Query :=
  if hmark : orMark ∈ alternatives text then
    (Reading.sequence (((alternatives text).filter (· ≠ orMark)).attach.map fun ⟨part, hpart⟩ =>
      have : part.length < text.length := by
        have hmem := List.mem_filter.1 hpart
        have := length_alternative_add_four_le hmark hmem.1 (by simpa using hmem.2)
        omega
      parse now part)).map ofBranches
  else
    (Reading.sequence ((split termMarks false (body text)).map (readTerm now))).map ofTerms
termination_by text.length

/-- Alternatives are read one by one. -/
theorem parse_of_mem {now : Instant} {text : List Char} (h : orMark ∈ alternatives text) :
    parse now text =
      (Reading.sequence (((alternatives text).filter (· ≠ orMark)).map (parse now))).map
        ofBranches := by
  rw [parse, dif_pos h]
  simp

/-- A text without alternatives is a list of terms. -/
theorem parse_of_not_mem {now : Instant} {text : List Char} (h : orMark ∉ alternatives text) :
    parse now text =
      (Reading.sequence ((split termMarks false (body text)).map (readTerm now))).map ofTerms := by
  rw [parse, dif_neg h]

/-- The query that a string stands for. -/
def ofString (now : Instant) (s : String) : Reading Query := parse now s.toList

end CardSearch.Query
