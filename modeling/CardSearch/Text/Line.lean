/-!
# Lines of a text

A line ends before a line feed, or before a carriage return and a line feed. A
carriage return elsewhere is part of the line.
-/

namespace CardSearch.Text

/-- The text without a carriage return at its end. -/
def dropReturn (s : List Char) : List Char :=
  if s.getLast? = some '\r' then s.dropLast else s

/-- The first line of a text. -/
def firstLine (s : List Char) : List Char :=
  let line := s.takeWhile (· ≠ '\n')
  if line.length < s.length then dropReturn line else line

/-- The first line holds no line feed. -/
theorem not_mem_firstLine (s : List Char) : '\n' ∉ firstLine s := by
  have h : '\n' ∉ s.takeWhile (· ≠ '\n') := fun hm => by
    simpa using List.all_eq_true.1 List.all_takeWhile _ hm
  simp only [firstLine, dropReturn]
  split
  · split
    · exact fun hm => h (List.dropLast_subset _ hm)
    · exact h
  · exact h

/-- Lines as one text, each with a line feed at its end. -/
def ofLines (lines : List (List Char)) : List Char := lines.flatMap (· ++ ['\n'])

@[simp] theorem ofLines_nil : ofLines [] = [] := rfl

@[simp] theorem ofLines_cons (line : List Char) (rest : List (List Char)) :
    ofLines (line :: rest) = line ++ '\n' :: ofLines rest := by
  simp [ofLines]

/-- The text cut to a number of characters, three points standing for what is left out. -/
def ellipsize (s : List Char) (most : Nat) : List Char :=
  if most < s.length then s.take (most - 3) ++ ['.', '.', '.'] else s

/-- The text filled with spaces on the right up to a number of characters. -/
def padRight (width : Nat) (s : List Char) : List Char := s ++ List.replicate (width - s.length) ' '

/-- From three characters on, a cut text keeps to its limit. -/
theorem length_ellipsize_le {s : List Char} {most : Nat} (h : 3 ≤ most) :
    (ellipsize s most).length ≤ most := by
  simp only [ellipsize]
  split
  · simp only [List.length_append, List.length_take, List.length_cons, List.length_nil]
    omega
  · omega

theorem length_padRight (width : Nat) (s : List Char) :
    (padRight width s).length = max width s.length := by
  simp only [padRight, List.length_append, List.length_replicate]
  omega

end CardSearch.Text
