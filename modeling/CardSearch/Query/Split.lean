import CardSearch.Query.Brackets

/-!
# Splitting query text

Query text is cut at separators. A character right after a backslash is plain,
text between quotation marks and text in brackets is never cut, and the marks
that quote and group are not part of any token.

The scan turns the text into pieces, and every character ends up in exactly one
of them: a character of a token, a whole separator, or a hidden mark. The tokens
are then assembled from the pieces. Of several separators that start at a place
the longest is taken. `length_flatten_split_le` says that the tokens together are
no longer than the text, on which the end of the parser's recursion rests.
-/

namespace CardSearch.Query

/-- Where the scan stands: inside quotation marks, inside brackets, both or neither. -/
structure Mode where
  quoted : Bool
  grouped : Bool
deriving DecidableEq, Repr

/-- The mode in which a text begins. -/
def Mode.start : Mode := ⟨false, false⟩

/-- Whether separators count. -/
def Mode.isOpen (m : Mode) : Bool := !m.quoted && !m.grouped

/--
The mode after a character that quotes or groups, or nothing for any other
character. Brackets do not nest: inside a group only the closing one counts.
-/
def Mode.after? (m : Mode) (escaped : Bool) (c : Char) : Option Mode :=
  if escaped then none
  else if c = '"' then some { m with quoted := !m.quoted }
  else if c = '(' ∧ m.isOpen then some { m with grouped := true }
  else if c = ')' ∧ !m.quoted ∧ m.grouped then some { m with grouped := false }
  else none

/-- A part of scanned text. -/
inductive Piece where
  /-- A character of a token. -/
  | text (c : Char)
  /-- A separator. -/
  | mark (sep : List Char)
  /-- A quotation mark or a bracket. -/
  | hidden (c : Char)
deriving DecidableEq, Repr

namespace Piece

/-- The characters of a piece. -/
def chars : Piece → List Char
  | text c | hidden c => [c]
  | mark sep => sep

end Piece

/-- The separators without empty ones, longest first. -/
def orderSeparators (seps : List (List Char)) : List (List Char) :=
  (seps.filter (· ≠ [])).mergeSort fun a b => b.length ≤ a.length

/-- The first of the separators that the text starts with. -/
def separatorAt? (seps : List (List Char)) (s : List Char) : Option (List Char) :=
  seps.find? (·.isPrefixOf s)

/-- The separator that counts at a place of the scan. -/
def separatorIn? (seps : List (List Char)) (m : Mode) (escaped : Bool) (s : List Char) :
    Option (List Char) :=
  if m.isOpen && !escaped then separatorAt? seps s else none

/-- The pieces of a text; `escaped` says whether a backslash stands before it. -/
def pieces (seps : List (List Char)) (m : Mode) (escaped : Bool) : List Char → List Piece
  | [] => []
  | c :: rest =>
    match m.after? escaped c with
    | some m' => .hidden c :: pieces seps m' false rest
    | none =>
      match separatorIn? seps m escaped (c :: rest) with
      | some sep =>
        .mark sep :: pieces seps m (sep.getLast? == some '\\') (rest.drop (sep.length - 1))
      | none => .text c :: pieces seps m (c == '\\') rest
termination_by s => s.length
decreasing_by all_goals simp only [List.length_cons, List.length_drop]; omega

/-- A token, unless it is empty. -/
def flush (token : List Char) : List (List Char) := if token = [] then [] else [token]

/-- The text before the first separator, and the tokens from there on. -/
def assemble (keep : Bool) : List Piece → List Char × List (List Char)
  | [] => ([], [])
  | .text c :: rest => (c :: (assemble keep rest).1, (assemble keep rest).2)
  | .hidden _ :: rest => assemble keep rest
  | .mark sep :: rest =>
    ([], (if keep then [sep] else []) ++ flush (assemble keep rest).1 ++ (assemble keep rest).2)

/-- The tokens of the pieces, the separators among them if they are kept. -/
def tokens (keep : Bool) (ps : List Piece) : List (List Char) :=
  flush (assemble keep ps).1 ++ (assemble keep ps).2

/-- The tokens of a text, after a matching pair of brackets around it is taken off. -/
def split (seps : List (List Char)) (keep : Bool) (s : List Char) : List (List Char) :=
  tokens keep (pieces (orderSeparators seps) .start false (stripBrackets s))

@[simp] theorem flatten_flush (token : List Char) : (flush token).flatten = token := by
  simp only [flush]
  split <;> simp_all

theorem ne_nil_of_mem_flush {token t : List Char} (h : t ∈ flush token) : t ≠ [] := by
  simp only [flush] at h
  split at h <;> simp_all

theorem ne_nil_of_mem_orderSeparators {seps : List (List Char)} {sep : List Char}
    (h : sep ∈ orderSeparators seps) : sep ≠ [] := by
  simpa using (List.mem_filter.1 (List.mem_mergeSort.1 h)).2

theorem mem_of_separatorIn?_eq_some {seps : List (List Char)} {m : Mode} {escaped : Bool}
    {s sep : List Char} (h : separatorIn? seps m escaped s = some sep) : sep ∈ seps := by
  simp only [separatorIn?] at h
  split at h
  · exact List.mem_of_find?_eq_some h
  · simp at h

/-- A separator that is found starts the text. -/
theorem append_drop_of_separatorIn? {seps : List (List Char)} {m : Mode} {escaped : Bool}
    {s sep : List Char} (h : separatorIn? seps m escaped s = some sep) :
    sep ++ s.drop sep.length = s := by
  simp only [separatorIn?] at h
  split at h
  · have hp := List.find?_some h
    exact List.prefix_iff_eq_append.1 (List.isPrefixOf_iff_prefix.1 hp)
  · simp at h

/-- Every character of the text is in one piece, and the pieces stand in its order. -/
theorem flatMap_chars_pieces {seps : List (List Char)} (hseps : ∀ sep ∈ seps, sep ≠ []) (m : Mode)
    (escaped : Bool) (s : List Char) : (pieces seps m escaped s).flatMap Piece.chars = s := by
  fun_induction pieces seps m escaped s with
  | case1 => rfl
  | case2 m escaped c rest m' h ih => simp [Piece.chars, ih]
  | case3 m escaped c rest h sep hsep ih =>
    have happ := append_drop_of_separatorIn? hsep
    have hne := hseps sep (mem_of_separatorIn?_eq_some hsep)
    obtain ⟨k, hk⟩ : ∃ k, sep.length = k + 1 :=
      Nat.exists_eq_succ_of_ne_zero (by simpa using hne)
    simp only [hk, List.drop_succ_cons, Nat.add_sub_cancel] at happ ih
    simp [Piece.chars, hk, ih, happ]
  | case4 m escaped c rest h hsep ih => simp [Piece.chars, ih]

/-- Without hidden marks and dropped separators, the tokens are what the pieces hold. -/
theorem length_flatten_tokens_le (keep : Bool) (ps : List Piece) :
    (tokens keep ps).flatten.length ≤ (ps.flatMap Piece.chars).length := by
  have key : (assemble keep ps).1.length + (assemble keep ps).2.flatten.length ≤
      (ps.flatMap Piece.chars).length := by
    induction ps with
    | nil => simp [assemble]
    | cons p rest ih =>
      cases p with
      | text c => simp [assemble, Piece.chars] at ih ⊢; omega
      | hidden c => simp [assemble, Piece.chars] at ih ⊢; omega
      | mark sep =>
        cases keep <;> simp [assemble, Piece.chars] at ih ⊢ <;> omega
  simpa [tokens] using key

/-- The tokens together are no longer than the text. -/
theorem length_flatten_split_le (seps : List (List Char)) (keep : Bool) (s : List Char) :
    (split seps keep s).flatten.length ≤ s.length := by
  refine Nat.le_trans (length_flatten_tokens_le keep _) ?_
  rw [flatMap_chars_pieces fun sep h => ne_nil_of_mem_orderSeparators h]
  exact length_stripBrackets_le s

/-- Two different members of a list of texts are together no longer than all of them. -/
theorem length_add_length_le_flatten {a b : List Char} {ts : List (List Char)} (ha : a ∈ ts)
    (hb : b ∈ ts) (hne : a ≠ b) : a.length + b.length ≤ ts.flatten.length := by
  induction ts with
  | nil => simp at ha
  | cons t rest ih =>
    have single : ∀ x ∈ rest, x.length ≤ rest.flatten.length := fun x hx =>
      (List.sublist_flatten_of_mem hx).length_le
    simp only [List.flatten_cons, List.length_append]
    rcases List.mem_cons.1 ha with rfl | ha'
    · rcases List.mem_cons.1 hb with rfl | hb'
      · exact absurd rfl hne
      · have := single b hb'
        omega
    · rcases List.mem_cons.1 hb with rfl | hb'
      · have := single a ha'
        omega
      · have := ih ha' hb'
        omega

end CardSearch.Query
