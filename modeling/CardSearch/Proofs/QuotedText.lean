import CardSearch.Number.Integer
import CardSearch.Text.Quoted

/-!
# Quoted text reads back

Every character of quoted text is written so that a reader knows where it ends: a
plain one is a single character other than the backslash, an escape is a backslash
and a letter, and a code point ends at its closing brace. `unquoteChar?` is that
reader and `unquoteChar?_quoteChar` says that it finds each character whatever
comes after it, so no two texts are quoted alike (`quoted_injective`). That quoted
text stays on its line is `newline_not_mem_quoted`.
-/

namespace CardSearch.Text

open Number (charOfCode? hexValue? ofHex?)

/-! ## Code points -/

theorem hexValue?_digitChar : ∀ n < 16, hexValue? (Nat.digitChar n) = some n := by decide

theorem ofHex?_toDigits (n : Nat) : ofHex? (Nat.toDigits 16 n) = some n := by
  induction n using Nat.strongRecOn with
  | _ n ih =>
      by_cases hn : n < 16
      · rw [Nat.toDigits_of_lt_base hn]
        simp [ofHex?, hexValue?_digitChar n hn]
      · have hinit := ih (n / 16) (by omega)
        rw [ofHex?] at hinit
        rw [Nat.toDigits_of_base_le (by decide) (by omega), ofHex?, List.foldlM_append, hinit]
        simp only [Option.bind_eq_bind, Option.bind_some, List.foldlM_cons, List.foldlM_nil,
          hexValue?_digitChar (n % 16) (Nat.mod_lt n (by decide))]
        show some (n / 16 * 16 + n % 16) = some n
        rw [Nat.div_add_mod']

theorem digitChar_ne : ∀ n < 16, Nat.digitChar n ≠ '\x7d' ∧ Nat.digitChar n ≠ '\n' := by decide

theorem ne_of_mem_toDigits {n : Nat} {c : Char} (h : c ∈ Nat.toDigits 16 n) :
    c ≠ '\x7d' ∧ c ≠ '\n' := by
  induction n using Nat.strongRecOn with
  | _ n ih =>
      by_cases hn : n < 16
      · rw [Nat.toDigits_of_lt_base hn, List.mem_singleton] at h
        rw [h]
        exact digitChar_ne n hn
      · rw [Nat.toDigits_of_base_le (by decide) (by omega), List.mem_append,
          List.mem_singleton] at h
        rcases h with hinit | hlast
        · exact ih (n / 16) (by omega) hinit
        · rw [hlast]
          exact digitChar_ne (n % 16) (Nat.mod_lt n (by decide))

theorem charOfCode?_toNat (c : Char) : charOfCode? c.toNat = some c := by
  have hvalid : c.toNat < 0xD800 ∨ 0xDFFF < c.toNat ∧ c.toNat < 0x110000 := c.valid
  rw [charOfCode?, if_pos hvalid, Char.ofNat_toNat]

/-! ## Reading one character -/

/-- The character that a letter stands for after a backslash. -/
def escaped? : Char → Option Char
  | '0' => some '\x00'
  | 't' => some '\t'
  | 'n' => some '\n'
  | 'r' => some '\r'
  | '"' => some '"'
  | '\\' => some '\\'
  | _ => none

/-- The first character of a quoted text, and the text after it. -/
def unquoteChar? : List Char → Option (Char × List Char)
  | [] => none
  | '\\' :: 'u' :: '\x7b' :: s =>
    ((ofHex? (s.takeWhile (· ≠ '\x7d'))).bind charOfCode?).map
      (·, (s.dropWhile (· ≠ '\x7d')).tail)
  | '\\' :: c :: s => (escaped? c).map (·, s)
  | c :: s => some (c, s)

theorem unquoteChar?_codePointEscape (c : Char) (s : List Char) :
    unquoteChar? (codePointEscape c ++ s) = some (c, s) := by
  have hdigits : ∀ d ∈ Nat.toDigits 16 c.toNat, (d ≠ '\x7d' : Bool) = true := by
    intro d hd
    exact decide_eq_true (ne_of_mem_toDigits hd).1
  have htext : codePointEscape c ++ s =
      '\\' :: 'u' :: '\x7b' :: (Nat.toDigits 16 c.toNat ++ '\x7d' :: s) := by
    simp [codePointEscape]
  rw [htext, unquoteChar?, List.takeWhile_append_of_pos hdigits,
    List.dropWhile_append_of_pos hdigits]
  simp [ofHex?_toDigits, charOfCode?_toNat]

/-- A quoted character is found again, whatever stands after it. -/
theorem unquoteChar?_quoteChar (c : Char) (s : List Char) :
    unquoteChar? (quoteChar c ++ s) = some (c, s) := by
  unfold quoteChar
  split
  · rfl
  · rfl
  · rfl
  · rfl
  · rfl
  · rfl
  · next hback =>
    split
    · -- a backslash of its own is escaped, so this one cannot begin an escape
      show unquoteChar? (c :: s) = some (c, s)
      unfold unquoteChar?
      split <;> simp_all
    · exact unquoteChar?_codePointEscape c s

/-! ## Whole texts -/

theorem flatMap_quoteChar_injective {s t : List Char}
    (h : s.flatMap quoteChar = t.flatMap quoteChar) : s = t := by
  induction s generalizing t with
  | nil =>
      cases t with
      | nil => rfl
      | cons d t =>
          have hread := unquoteChar?_quoteChar d (t.flatMap quoteChar)
          rw [← List.flatMap_cons, ← h] at hread
          exact absurd hread nofun
  | cons c s ih =>
      have hread := unquoteChar?_quoteChar c (s.flatMap quoteChar)
      rw [← List.flatMap_cons, h] at hread
      cases t with
      | nil => exact absurd hread nofun
      | cons d t =>
          rw [List.flatMap_cons, unquoteChar?_quoteChar] at hread
          obtain ⟨hchar, hrest⟩ := Prod.mk.inj (Option.some.inj hread)
          rw [hchar, ih hrest.symm]

theorem quoted_injective {s t : List Char} (h : quoted s = quoted t) : s = t :=
  flatMap_quoteChar_injective (List.append_cancel_right (List.cons.inj h).2)

theorem newline_not_mem_quoteChar (c : Char) : '\n' ∉ quoteChar c := by
  unfold quoteChar
  split
  · decide
  · decide
  · decide
  · decide
  · decide
  · decide
  · next hline _ _ _ =>
    split
    · intro hmem
      exact hline (List.mem_singleton.1 hmem).symm
    · intro hmem
      simp only [codePointEscape, List.mem_append, List.mem_cons, List.not_mem_nil, or_false]
        at hmem
      rcases hmem with (hopen | hdigit) | hclose
      · revert hopen
        decide
      · exact (ne_of_mem_toDigits hdigit).2 rfl
      · revert hclose
        decide

theorem newline_not_mem_quoted (s : List Char) : '\n' ∉ quoted s := by
  intro hmem
  simp only [quoted, List.cons_append, List.mem_cons, List.mem_append, List.mem_flatMap,
    List.not_mem_nil, or_false] at hmem
  rcases hmem with hmark | ⟨c, -, hc⟩ | hmark
  · revert hmark
    decide
  · exact newline_not_mem_quoteChar c hc
  · revert hmark
    decide

end CardSearch.Text
