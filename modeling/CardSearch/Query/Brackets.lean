/-!
# Outer brackets

A text is wrapped when its first character opens a bracket that its last
character closes. `stripBrackets` takes such a pair off and leaves every other
text alone. A character right after a backslash is plain, a quotation mark opens
or closes quoted text, and brackets inside quoted text are plain.
-/

namespace CardSearch.Query

/--
Whether the brackets of a text are closed by its last character and not before,
in a scan that has `depth` brackets open. `quoted` says whether the scan is
inside quoted text, and `escaped` whether the character before was a backslash.
-/
def closesAtEnd (quoted escaped : Bool) (depth : Nat) : List Char → Bool
  | [] => depth == 0
  | c :: rest =>
    if escaped then closesAtEnd quoted (c == '\\') depth rest
    else if c = '"' then closesAtEnd (!quoted) false depth rest
    else if c = '(' ∧ !quoted then closesAtEnd quoted false (depth + 1) rest
    else if c = ')' ∧ !quoted then
      if depth ≤ 1 ∧ rest ≠ [] then false else closesAtEnd quoted false (depth - 1) rest
    else closesAtEnd quoted (c == '\\') depth rest

/-- Whether a matching pair of brackets encloses the text. -/
def isWrapped (s : List Char) : Bool :=
  2 ≤ s.length && s.head? == some '(' && s.getLast? == some ')' && closesAtEnd false false 0 s

/-- The text without a matching pair of brackets around it. -/
def stripBrackets (s : List Char) : List Char := if isWrapped s then s.tail.dropLast else s

theorem length_stripBrackets_le (s : List Char) : (stripBrackets s).length ≤ s.length := by
  simp only [stripBrackets]
  split
  · simp only [List.length_dropLast, List.length_tail]
    omega
  · exact Nat.le_refl _

/-- A text that does not begin with a bracket is left alone. -/
theorem stripBrackets_eq_self {s : List Char} (h : s.head? ≠ some '(') : stripBrackets s = s := by
  simp [stripBrackets, isWrapped, h]

end CardSearch.Query
