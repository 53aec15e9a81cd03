/-!
# Parts of a text between marks

A mark is a single character. A text with n marks has n + 1 parts, some of which
may be empty, and the parts of two texts with a mark between them are the parts
of the one followed by those of the other.
-/

namespace CardSearch.Text

/-- A character put in front of the first of some parts. -/
def growFirst (c : Char) : List (List Char) → List (List Char)
  | [] => [[c]]
  | part :: rest => (c :: part) :: rest

/-- The parts of the text between the marks. -/
def parts (mark : Char) : List Char → List (List Char)
  | [] => [[]]
  | c :: rest => if c = mark then [] :: parts mark rest else growFirst c (parts mark rest)

/-- What stands before and after the first mark. -/
def cutAtFirst? (mark : Char) (s : List Char) : Option (List Char × List Char) :=
  match s.dropWhile (· ≠ mark) with
  | [] => none
  | _ :: after => some (s.takeWhile (· ≠ mark), after)

theorem parts_ne_nil (mark : Char) (s : List Char) : parts mark s ≠ [] := by
  cases s with
  | nil => simp [parts]
  | cons c rest =>
    simp only [parts]
    split
    · simp
    · cases parts mark rest <;> simp [growFirst]

/-- A mark between two texts separates their parts. -/
theorem parts_append_mark (mark : Char) (s t : List Char) :
    parts mark (s ++ mark :: t) = parts mark s ++ parts mark t := by
  induction s with
  | nil => simp [parts]
  | cons c rest ih =>
    simp only [List.cons_append, parts, ih]
    split
    · rfl
    · cases h : parts mark rest with
      | nil => exact absurd h (parts_ne_nil mark rest)
      | cons part more => rfl

/-- A text without marks is a single part. -/
theorem parts_eq_singleton {mark : Char} {s : List Char} (h : mark ∉ s) : parts mark s = [s] := by
  induction s with
  | nil => rfl
  | cons c rest ih =>
    have hc : c ≠ mark := fun e => h (by simp [e])
    simp [parts, hc, ih (fun hm => h (List.mem_cons_of_mem c hm)), growFirst]

/-- There is no cut without a mark. -/
theorem cutAtFirst?_eq_none {mark : Char} {s : List Char} (h : mark ∉ s) :
    cutAtFirst? mark s = none := by
  have hdrop : s.dropWhile (· ≠ mark) = [] := by
    induction s with
    | nil => rfl
    | cons c rest ih =>
      have hc : c ≠ mark := fun e => h (by simp [e])
      rw [List.dropWhile_cons_of_pos (by simpa using hc), ih fun hm => h (.tail c hm)]
  rw [cutAtFirst?, hdrop]

/-- A text without marks and a mark after it are cut there. -/
theorem cutAtFirst?_append {mark : Char} {s : List Char} (h : mark ∉ s) (t : List Char) :
    cutAtFirst? mark (s ++ mark :: t) = some (s, t) := by
  have hs : ∀ c ∈ s, (c ≠ mark : Bool) = true := by
    intro c hc
    exact decide_eq_true fun e => h (e ▸ hc)
  rw [cutAtFirst?, List.dropWhile_append_of_pos hs, List.takeWhile_append_of_pos hs]
  simp

end CardSearch.Text
