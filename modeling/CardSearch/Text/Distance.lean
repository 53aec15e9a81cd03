/-!
# Edit distance

The least number of single-character insertions, deletions and replacements that
turn one text into another. `editDistance` says it by recursion on both texts;
`distance` computes it row by row, each row holding the distances from one text
to every end of the other, and `distance_eq_editDistance` says that they agree.
-/

namespace CardSearch.Text

/-- The least number of edits, by the first characters of both texts. -/
def editDistance : List Char → List Char → Nat
  | [], ys => ys.length
  | xs, [] => xs.length
  | x :: xs, y :: ys =>
    if x = y then editDistance xs ys
    else 1 + min (editDistance xs ys) (min (editDistance xs (y :: ys)) (editDistance (x :: xs) ys))
termination_by xs ys => xs.length + ys.length

/-- The distances of the empty text to every end of a text. -/
def firstRow : List Char → List Nat
  | [] => [0]
  | _ :: ys => (ys.length + 1) :: firstRow ys

/-- The distances of `x :: xs` to every end of a text, from those of `xs`. -/
def nextRow (x : Char) : List Char → List Nat → List Nat
  | [], row => [row.headD 0 + 1]
  | y :: ys, row =>
    let rest := nextRow x ys row.tail
    let diagonal := row.tail.headD 0
    (if x = y then diagonal else 1 + min diagonal (min (row.headD 0) (rest.headD 0))) :: rest

/-- The distances of a text to every end of another. -/
def distanceRow : List Char → List Char → List Nat
  | [], ys => firstRow ys
  | x :: xs, ys => nextRow x ys (distanceRow xs ys)

/-- The edit distance, row by row. -/
def distance (xs ys : List Char) : Nat := (distanceRow xs ys).headD 0

/-- The ends of a text, from the whole of it to the empty one. -/
def ends : List Char → List (List Char)
  | [] => [[]]
  | y :: ys => (y :: ys) :: ends ys

theorem firstRow_eq (ys : List Char) : firstRow ys = (ends ys).map (editDistance []) := by
  induction ys with
  | nil => simp [firstRow, ends, editDistance]
  | cons y ys ih => simp [firstRow, ends, editDistance, ih]

theorem headD_map_ends (f : List Char → Nat) (ys : List Char) :
    ((ends ys).map f).headD 0 = f ys := by cases ys <;> rfl

theorem nextRow_eq (x : Char) (xs ys : List Char) :
    nextRow x ys ((ends ys).map (editDistance xs)) = (ends ys).map (editDistance (x :: xs)) := by
  induction ys with
  | nil => cases xs <;> simp [nextRow, ends, editDistance]
  | cons y ys ih =>
    simp only [nextRow, ends, List.map_cons, List.tail_cons, List.headD_cons, ih, headD_map_ends]
    rw [editDistance]

theorem distanceRow_eq (xs ys : List Char) :
    distanceRow xs ys = (ends ys).map (editDistance xs) := by
  induction xs with
  | nil => exact firstRow_eq ys
  | cons x xs ih => rw [distanceRow, ih, nextRow_eq]

theorem distance_eq_editDistance (xs ys : List Char) : distance xs ys = editDistance xs ys := by
  rw [distance, distanceRow_eq, headD_map_ends]

end CardSearch.Text
