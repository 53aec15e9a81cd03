import CardSearch.Pattern.Reader
import Mathlib.Data.List.Forall2

/-!
# Literal text as a pattern

An escaped text is read one character at a time: a character with a meaning of
its own comes with a backslash before it, any other stands for itself, and
either way the machine pushes that character in both cases (`run?_escape_cons`).
No group is opened and no branch begun, so what is read is the plain sequence
`literal`, provided that its automata fit (`read?_escape`).

Such a sequence matches where the text stands letter by letter, each letter up
to simple case folding. `isMatch_literal_iff` says so for any text searched.
-/

namespace CardSearch

open Text (orbit)

namespace Text

/-- Whether a text stands somewhere in another one, simple case folding aside. -/
def OccursFolded (s text : List Char) : Prop :=
  ∃ before found after, text = before ++ found ++ after ∧
    List.Forall₂ (fun c d => d ∈ orbit c) s found

end Text

namespace Pattern

/-- A character in both cases. -/
def anyCase (c : Char) : Pattern := .one (.chars (orbit c))

/-- A text as it is written, case aside. -/
def literal (s : List Char) : Pattern := ofParts (s.map anyCase)

/-! ## Reading -/

/-- The part of a branch that a literal character is. -/
def literalItem (c : Char) : Item := ⟨some (anyCase c), 0⟩

/-- The flags under which queries are read. -/
def queryFlags : Flags := { ignoreCase := true }

namespace Machine

theorem run?_nil {m : Machine} (h : m.flags = queryFlags) : m.run? [] = some m := by
  have hgap : m.flags.gap [] = [] := by rw [h]; rfl
  rw [run?]
  split
  · rfl
  · next hcons => rw [hgap] at hcons; cases hcons

theorem run?_cons {m m' : Machine} {c : Char} {rest rest' : List Char}
    (h : m.flags = queryFlags) (hstep : m.step? c rest = some (m', rest'))
    (hlen : rest'.length ≤ rest.length) : m.run? (c :: rest) = m'.run? rest' := by
  have hgap : m.flags.gap (c :: rest) = c :: rest := by rw [h]; rfl
  rw [run?]
  split
  · next hnil => rw [hgap] at hnil; cases hnil
  · next hcons =>
      rw [hgap] at hcons
      obtain ⟨rfl, rfl⟩ := List.cons.inj hcons
      rw [hstep]
      exact if_pos hlen

theorem step?_of_not_isMeta {m : Machine} (h : m.flags = queryFlags) {c : Char}
    (hc : isMeta c = false) (rest : List Char) :
    m.step? c rest = some (m.push (anyCase c), rest) := by
  have hne : ∀ {d : Char}, isMeta d = true → c ≠ d := by
    rintro d hd rfl
    rw [hd] at hc
    cases hc
  unfold step?
  split
  -- The characters with a case of their own all mean something.
  all_goals try exact absurd rfl (hne (by decide))
  rw [h]
  rfl

theorem step?_backslash {m : Machine} (h : m.flags = queryFlags) {c : Char}
    (hc : isMeta c = true) (rest : List Char) :
    m.step? '\\' (c :: rest) = some (m.push (anyCase c), rest) := by
  have hescape : readEscape? queryFlags (c :: rest) = some (.literal c false, rest) := by
    have hmem : c ∈ ['\\', '.', '+', '*', '?', '(', ')', '|', '[', ']', '{', '}', '^', '$', '#',
        '&', '-', '~'] := List.contains_iff_mem.1 hc
    simp only [List.mem_cons, List.not_mem_nil, or_false] at hmem
    rcases hmem with rfl | rfl | rfl | rfl | rfl | rfl | rfl | rfl | rfl | rfl | rfl | rfl | rfl |
      rfl | rfl | rfl | rfl | rfl
    all_goals rfl
  show (readEscape? m.flags (c :: rest)).bind _ = _
  rw [h, hescape]
  rfl

/-- An escaped character is one part more. -/
theorem run?_escape_cons {m : Machine} (h : m.flags = queryFlags) (c : Char) (s : List Char) :
    m.run? (escape (c :: s)) = (m.push (anyCase c)).run? (escape s) := by
  rw [escape_cons]
  cases hc : isMeta c with
  | true =>
      exact run?_cons h (step?_backslash h hc (escape s)) (Nat.le_succ _)
  | false =>
      exact run?_cons h (step?_of_not_isMeta h hc (escape s)) (Nat.le_refl _)

/-- The parts of the machine after a literal text, the last one first. -/
theorem run?_escape {m : Machine} (h : m.flags = queryFlags) (s : List Char) :
    m.run? (escape s) = some { m with
      current := { m.current with
        items := (s.map literalItem).reverse ++ m.current.items } } := by
  induction s generalizing m with
  | nil => exact run?_nil h
  | cons c s ih =>
      rw [run?_escape_cons h, ih (m := m.push (anyCase c)) h, List.map_cons, List.reverse_cons,
        List.append_assoc]
      rfl

end Machine

theorem parts_anyCase (s : List Char) : (s.map anyCase).flatMap parts = s.map anyCase := by
  induction s with
  | nil => rfl
  | cons c s ih => rw [List.map_cons, List.flatMap_cons, ih]; rfl

theorem alternatives_literal (s : List Char) : alternatives (literal s) = [literal s] := by
  cases s with
  | nil => rfl
  | cons c s =>
      cases s with
      | nil => rfl
      | cons d s => rfl

theorem choice_literal (s : List Char) : choice [literal s] = literal s := by
  have hall : [literal s].flatMap alternatives = [literal s] := by
    rw [List.flatMap_singleton, alternatives_literal]
  rw [choice, hall]

theorem foldl_max_zero {ns : List Nat} (h : ∀ n ∈ ns, n = 0) : ns.foldl max 0 = 0 := by
  induction ns with
  | nil => rfl
  | cons n ns ih =>
      rw [List.foldl_cons, h n List.mem_cons_self]
      exact ih fun m hm => h m (List.mem_cons_of_mem n hm)

theorem branchOf_literal (s : List Char) :
    (branchOf (s.map literalItem).reverse).1 = literal s ∧
      (branchOf (s.map literalItem).reverse).2 ≤ 1 := by
  constructor
  · show ofParts (((s.map literalItem).reverse.filterMap (·.pattern)).reverse.flatMap parts) = _
    rw [List.filterMap_reverse, List.reverse_reverse, List.filterMap_map]
    show ofParts ((s.filterMap fun c => some (anyCase c)).flatMap parts) = literal s
    rw [List.filterMap_eq_map', parts_anyCase, literal]
  · have hdepths : ((s.map literalItem).reverse.map Item.depth).foldl max 0 = 0 :=
      foldl_max_zero (by simp [literalItem])
    show (if _ then ((s.map literalItem).reverse.map Item.depth).foldl max 0 else _) ≤ 1
    rw [hdepths]
    split
    · exact Nat.zero_le 1
    · exact Nat.le_refl 1

theorem close_literal (s : List Char) (outer : Flags) :
    (Group.close { items := (s.map literalItem).reverse, outer }).1 = literal s ∧
      (Group.close { items := (s.map literalItem).reverse, outer }).2 ≤ 1 := by
  obtain ⟨hpattern, hdepth⟩ := branchOf_literal s
  constructor
  · show choice [(branchOf (s.map literalItem).reverse).1] = literal s
    rw [hpattern, choice_literal]
  · show max 0 (branchOf (s.map literalItem).reverse).2 ≤ 1
    rwa [Nat.zero_max]

/-- An escaped text is read as it is written, if there is room for it. -/
theorem read?_escape (s : List Char) :
    read? (escape s) = if (literal s).fits then some (literal s) else none := by
  have hrun := Machine.run?_escape
    (m := { flags := queryFlags, current := { outer := queryFlags } }) rfl s
  obtain ⟨hpattern, hdepth⟩ := close_literal s queryFlags
  show readWith? queryFlags (escape s) = _
  rw [readWith?, hrun]
  simp only [List.append_nil, hpattern]
  have hshallow : (Group.close { items := (s.map literalItem).reverse, outer := queryFlags }).2 ≤
      maxDepth := Nat.le_trans hdepth (by decide)
  simp only [hshallow, true_and]

/-! ## Matching -/

theorem ends_ofParts_cons (text : Array Char) (p : Pattern) (ps : List Pattern) (is : List Nat) :
    (ofParts (p :: ps)).ends text is = (ofParts ps).ends text (p.ends text is) := by
  cases ps with
  | nil => rfl
  | cons q ps => rfl

theorem mem_ends_anyCase {text : List Char} {c : Char} {is : List Nat} {j : Nat} :
    j ∈ (anyCase c).ends text.toArray is ↔
      ∃ i ∈ is, j = i + 1 ∧ ∃ d, text[i]? = some d ∧ d ∈ orbit c := by
  show j ∈ is.filterMap _ ↔ _
  rw [List.mem_filterMap]
  constructor
  · rintro ⟨i, hi, hstep⟩
    split at hstep
    · next hany =>
        obtain ⟨d, hd, hmem⟩ := (Option.any_eq_true _ _).1 hany
        exact ⟨i, hi, (Option.some.inj hstep).symm, d, by simpa using hd,
          List.contains_iff_mem.1 hmem⟩
    · cases hstep
  · rintro ⟨i, hi, rfl, d, hd, hmem⟩
    refine ⟨i, hi, if_pos ((Option.any_eq_true _ _).2 ⟨d, ?_, List.contains_iff_mem.2 hmem⟩)⟩
    simpa using hd

/-- Where a literal text may end: after a place at which it stands letter by letter. -/
theorem mem_ends_literal {text s : List Char} {is : List Nat} {j : Nat} :
    j ∈ (literal s).ends text.toArray is ↔
      ∃ i ∈ is, j = i + s.length ∧ ∃ found after, text.drop i = found ++ after ∧
        List.Forall₂ (fun c d => d ∈ orbit c) s found := by
  induction s generalizing is with
  | nil =>
      show j ∈ is ↔ _
      constructor
      · intro hj
        exact ⟨j, hj, rfl, [], _, rfl, .nil⟩
      · rintro ⟨i, hi, rfl, -⟩
        exact hi
  | cons c s ih =>
      rw [literal, List.map_cons, ends_ofParts_cons, ← literal, ih]
      constructor
      · rintro ⟨k, hk, rfl, found, after, hdrop, hfound⟩
        obtain ⟨i, hi, rfl, d, hd, hmem⟩ := mem_ends_anyCase.1 hk
        refine ⟨i, hi, by rw [List.length_cons]; omega, d :: found, after, ?_, .cons hmem hfound⟩
        obtain ⟨hlt, hget⟩ := List.getElem?_eq_some_iff.1 hd
        rw [List.drop_eq_getElem_cons hlt, hget, hdrop]
        rfl
      · rintro ⟨i, hi, rfl, found, after, hdrop, hfound⟩
        cases hfound with
        | @cons _ d _ found hmem hfound =>
            refine ⟨i + 1, mem_ends_anyCase.2 ⟨i, hi, rfl, d, ?_, hmem⟩,
              by rw [List.length_cons]; omega, found, after, ?_, hfound⟩
            · rw [← List.head?_drop, hdrop]
              rfl
            · rw [← List.tail_drop, hdrop]
              rfl

/-- A literal pattern matches exactly where the text stands, simple case folding aside. -/
theorem isMatch_literal_iff {s text : List Char} :
    (literal s).isMatch text = true ↔ Text.OccursFolded s text := by
  rw [isMatch, Bool.not_eq_true', List.isEmpty_eq_false_iff_exists_mem]
  constructor
  · rintro ⟨j, hj⟩
    obtain ⟨i, -, -, found, after, hdrop, hfound⟩ := mem_ends_literal.1 hj
    refine ⟨text.take i, found, after, ?_, hfound⟩
    rw [List.append_assoc, ← hdrop, List.take_append_drop]
  · rintro ⟨before, found, after, rfl, hfound⟩
    refine ⟨before.length + s.length, mem_ends_literal.2 ⟨before.length, ?_, rfl, found, after,
      ?_, hfound⟩⟩
    · rw [List.mem_range, List.append_assoc, List.length_append]
      omega
    · rw [List.append_assoc, List.drop_left]

end Pattern

end CardSearch
