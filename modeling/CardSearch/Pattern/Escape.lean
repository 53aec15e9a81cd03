/-!
# Literal text in patterns

A character with a meaning of its own in patterns stands for itself after a
backslash. `escape` puts one before each of them, so that the pattern finds the
text as it is.
-/

namespace CardSearch.Pattern

/-- The characters that mean something in patterns. -/
def isMeta (c : Char) : Bool :=
  ['\\', '.', '+', '*', '?', '(', ')', '|', '[', ']', '{', '}', '^', '$', '#', '&', '-',
    '~'].contains c

/-- The text with a backslash before each character that means something. -/
def escape (s : List Char) : List Char := s.flatMap fun c => if isMeta c then ['\\', c] else [c]

@[simp] theorem escape_nil : escape [] = [] := rfl

theorem escape_append (s t : List Char) : escape (s ++ t) = escape s ++ escape t := by
  simp [escape]

theorem escape_cons (c : Char) (s : List Char) :
    escape (c :: s) = (if isMeta c then ['\\', c] else [c]) ++ escape s := by
  rw [escape, List.flatMap_cons, escape]

theorem length_le_escape (s : List Char) : s.length ≤ (escape s).length := by
  induction s with
  | nil => exact Nat.le_refl 0
  | cons c s ih =>
      rw [escape_cons, List.length_append, List.length_cons]
      split
      · rw [List.length_cons, List.length_singleton]; omega
      · rw [List.length_singleton]; omega

theorem escape_injective {s t : List Char} (h : escape s = escape t) : s = t := by
  have hback : isMeta '\\' = true := by decide
  induction s generalizing t with
  | nil =>
      have hlen := length_le_escape t
      rw [← h] at hlen
      exact (List.eq_nil_of_length_eq_zero (Nat.le_zero.1 hlen)).symm
  | cons c s ih =>
      cases t with
      | nil =>
          have hlen := length_le_escape (c :: s)
          rw [h] at hlen
          exact absurd hlen (Nat.not_succ_le_zero _)
      | cons d t =>
          rw [escape_cons, escape_cons] at h
          -- Only a character that means something begins with a backslash.
          by_cases hc : isMeta c = true
          · by_cases hd : isMeta d = true
            · rw [if_pos hc, if_pos hd] at h
              obtain ⟨rfl, hst⟩ : c = d ∧ escape s = escape t := by simpa using h
              rw [ih hst]
            · rw [if_pos hc, if_neg hd] at h
              obtain ⟨rfl, -⟩ := List.cons.inj h
              exact absurd hback hd
          · by_cases hd : isMeta d = true
            · rw [if_neg hc, if_pos hd] at h
              obtain ⟨rfl, -⟩ := List.cons.inj h
              exact absurd hback hc
            · rw [if_neg hc, if_neg hd] at h
              obtain ⟨rfl, hst⟩ := List.cons.inj h
              rw [ih hst]

end CardSearch.Pattern
