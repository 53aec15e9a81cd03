/-!
# Blank characters

A character is blank when it carries the Unicode property `White_Space`. Query
text, numbers and instants are read after the blanks at both ends are dropped,
so `trim` is the first step of every reader in this library. The lemmas say
what a caller needs: a trimmed text has no blank at either end, trimming never
makes a text longer, and a text without blank ends is left alone.
-/

namespace CardSearch.Text

/-- The characters with the Unicode property `White_Space`. -/
def isBlank (c : Char) : Bool :=
  let n := c.toNat
  (0x9 ≤ n && n ≤ 0xD) || n == 0x20 || n == 0x85 || n == 0xA0 || n == 0x1680 ||
    (0x2000 ≤ n && n ≤ 0x200A) || n == 0x2028 || n == 0x2029 || n == 0x202F ||
    n == 0x205F || n == 0x3000

/-- The text without the blanks it starts with. -/
def trimStart (s : List Char) : List Char := s.dropWhile isBlank

/-- The text without the blanks it ends with. -/
def trimEnd (s : List Char) : List Char := (s.reverse.dropWhile isBlank).reverse

/-- The text without the blanks at both ends. -/
def trim (s : List Char) : List Char := trimEnd (trimStart s)

/-- Everything that core calls white space is blank. -/
theorem isBlank_of_isWhitespace {c : Char} (h : c.isWhitespace) : isBlank c := by
  simp only [Char.isWhitespace, Bool.or_eq_true, decide_eq_true_eq] at h
  rcases h with ((h | h) | h) | h <;> subst h <;> decide

/-- A visible character of ASCII is not blank. -/
theorem isBlank_of_visible {c : Char} (h : 32 < c.toNat ∧ c.toNat < 127) : isBlank c = false := by
  simp only [isBlank, Bool.or_eq_false_iff, Bool.and_eq_false_iff, decide_eq_false_iff_not,
    beq_eq_false_iff_ne]
  omega

/-- Characters that a test tells apart are not the same. -/
theorem ne_of_test {p : Char → Bool} {c d : Char} (hc : p c = true) (hd : p d = false) : c ≠ d :=
  fun h => Bool.noConfusion (hc.symm.trans (h ▸ hd))

theorem isBlank_of_isDigit {c : Char} (h : c.isDigit = true) : isBlank c = false := by
  obtain ⟨hleft, hright⟩ := Bool.and_eq_true_iff.1 h
  have hcode : 48 ≤ c.toNat ∧ c.toNat ≤ 57 := ⟨of_decide_eq_true hleft, of_decide_eq_true hright⟩
  exact isBlank_of_visible (by omega)

theorem isBlank_of_isAlpha {c : Char} (h : c.isAlpha = true) : isBlank c = false := by
  have hcode : (65 ≤ c.toNat ∧ c.toNat ≤ 90) ∨ (97 ≤ c.toNat ∧ c.toNat ≤ 122) := by
    rcases Bool.or_eq_true_iff.1 h with hupper | hlower
    · exact Or.inl (of_decide_eq_true hupper)
    · obtain ⟨hleft, hright⟩ := Bool.and_eq_true_iff.1 hlower
      exact Or.inr ⟨of_decide_eq_true hleft, of_decide_eq_true hright⟩
  exact isBlank_of_visible (by omega)

theorem length_dropWhile_le (p : Char → Bool) (s : List Char) :
    (s.dropWhile p).length ≤ s.length :=
  (List.dropWhile_sublist p).length_le

theorem length_trim_le (s : List Char) : (trim s).length ≤ s.length := by
  have h₁ := length_dropWhile_le isBlank s
  have h₂ := length_dropWhile_le isBlank (trimStart s).reverse
  simp only [trim, trimEnd, trimStart, List.length_reverse] at *
  omega

theorem trimStart_eq_self {s : List Char} (h : ∀ c ∈ s.head?, isBlank c = false) :
    trimStart s = s := by
  cases s with
  | nil => rfl
  | cons c rest => simp [trimStart, h c (by simp)]

theorem trimEnd_eq_self {s : List Char} (h : ∀ c ∈ s.getLast?, isBlank c = false) :
    trimEnd s = s := by
  have : trimStart s.reverse = s.reverse := trimStart_eq_self (by simpa using h)
  simpa [trimEnd, trimStart] using congrArg List.reverse this

/-- A text with no blank at either end is left alone. -/
theorem trim_eq_self {s : List Char} (hfirst : ∀ c ∈ s.head?, isBlank c = false)
    (hlast : ∀ c ∈ s.getLast?, isBlank c = false) : trim s = s := by
  rw [trim, trimStart_eq_self hfirst, trimEnd_eq_self hlast]

/-- After a text that does not end with a blank, blanks are taken off the rest only. -/
theorem trimEnd_append {s t : List Char} (hs : ∀ c ∈ s.getLast?, isBlank c = false) :
    trimEnd (s ++ t) = s ++ trimEnd t := by
  have hself : s.reverse.dropWhile isBlank = s.reverse :=
    trimStart_eq_self (by simpa using hs)
  rw [trimEnd, trimEnd, List.reverse_append, List.dropWhile_append, hself]
  split
  · next h => simp [List.isEmpty_iff.1 h]
  · rw [List.reverse_append, List.reverse_reverse]

@[simp] theorem trim_nil : trim [] = [] := rfl

end CardSearch.Text
