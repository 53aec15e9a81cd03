import CardSearch.Proofs.TermsInOrder
import Mathlib

/-!
# What is suggested for an unknown word

A word after `is:` that is no shortcut draws a warning. The suggestion in it goes by
edits: `Edits n xs ys` says that n insertions, deletions and replacements of single
characters lead from one text to another, and `editDistance` is the least such n
(`edits_editDistance`, `editDistance_le_of_edits`). What makes the greedy step of the
recursion right is that an edit which meets equal first characters can always be put
off (`Edits.drop_same`).

The search for the closest shortcut keeps the first of several that are equally
close. It is suggested when one or two edits lead to its name from the word in lower
case: a word that needs no edit at all is a shortcut in other letters, and the guard
that leaves out shortcuts themselves leaves these out with them.

Warnings are those of the terms in reading order up to the first that is refused,
alternatives or not (`warnings_parse`).
-/

namespace CardSearch

namespace Text

/-! ## Edits -/

/-- So many insertions, deletions and replacements lead from one text to the other. -/
inductive Edits : Nat → List Char → List Char → Prop
  | done : Edits 0 [] []
  | keep {n : Nat} {xs ys : List Char} (c : Char) : Edits n xs ys → Edits n (c :: xs) (c :: ys)
  | insert {n : Nat} {xs ys : List Char} (c : Char) : Edits n xs ys → Edits (n + 1) xs (c :: ys)
  | delete {n : Nat} {xs ys : List Char} (c : Char) : Edits n xs ys → Edits (n + 1) (c :: xs) ys
  | replace {n : Nat} {xs ys : List Char} (c d : Char) :
      Edits n xs ys → Edits (n + 1) (c :: xs) (d :: ys)

namespace Edits

variable {n : Nat} {xs ys : List Char}

theorem symm (h : Edits n xs ys) : Edits n ys xs := by
  induction h with
  | done => exact .done
  | keep c _ ih => exact .keep c ih
  | insert c _ ih => exact .delete c ih
  | delete c _ ih => exact .insert c ih
  | replace c d _ ih => exact .replace d c ih

theorem insert_all (ys : List Char) : Edits ys.length [] ys := by
  induction ys with
  | nil => exact .done
  | cons c ys ih => exact .insert c ih

theorem length_le_of_nil (h : Edits n [] ys) : ys.length ≤ n := by
  generalize hxs : ([] : List Char) = xs at h
  induction h with
  | done => exact Nat.le_refl 0
  | insert c _ ih => exact Nat.succ_le_succ (ih hxs)
  | keep | delete | replace => cases hxs

/-- Without the first character of the one text, one insertion more is enough. -/
theorem drop_left {c : Char} (h : Edits n (c :: xs) ys) : ∃ m ≤ n + 1, Edits m xs ys := by
  generalize hcs : c :: xs = cs at h
  induction h with
  | done => cases hcs
  | keep d h _ =>
      cases hcs
      exact ⟨_, Nat.le_refl _, .insert _ h⟩
  | insert d _ ih =>
      obtain ⟨m, hm, h⟩ := ih hcs
      exact ⟨m + 1, by omega, .insert d h⟩
  | @delete n _ _ d h _ =>
      cases hcs
      exact ⟨n, by omega, h⟩
  | @replace n _ _ d e h _ =>
      cases hcs
      exact ⟨n + 1, by omega, .insert e h⟩

theorem drop_right {c : Char} (h : Edits n xs (c :: ys)) : ∃ m ≤ n + 1, Edits m xs ys := by
  obtain ⟨m, hm, hsymm⟩ := h.symm.drop_left
  exact ⟨m, hm, hsymm.symm⟩

/-- Equal first characters need no edit. -/
theorem drop_same {c : Char} (h : Edits n (c :: xs) (c :: ys)) : ∃ m ≤ n, Edits m xs ys := by
  cases h with
  | keep _ h => exact ⟨n, Nat.le_refl n, h⟩
  | insert _ h => exact h.drop_left
  | delete _ h => exact h.drop_right
  | @replace m _ _ _ _ h => exact ⟨m, by omega, h⟩

end Edits

theorem edits_editDistance (xs ys : List Char) : Edits (editDistance xs ys) xs ys := by
  fun_induction editDistance xs ys with
  | case1 ys => exact Edits.insert_all ys
  | case2 xs => exact (Edits.insert_all xs).symm
  | case3 xs x ys ih => exact .keep x ih
  | case4 x xs y ys _ ihboth ihleft ihright =>
      rw [Nat.add_comm 1]
      rcases Nat.le_total (editDistance xs ys)
          (min (editDistance xs (y :: ys)) (editDistance (x :: xs) ys)) with hboth | hone
      · rw [Nat.min_eq_left hboth]
        exact .replace x y ihboth
      · rw [Nat.min_eq_right hone]
        rcases Nat.le_total (editDistance xs (y :: ys)) (editDistance (x :: xs) ys) with hl | hr
        · rw [Nat.min_eq_left hl]
          exact .delete x ihleft
        · rw [Nat.min_eq_right hr]
          exact .insert y ihright

theorem editDistance_le_of_edits {n : Nat} {xs ys : List Char} (h : Edits n xs ys) :
    editDistance xs ys ≤ n := by
  fun_induction editDistance xs ys generalizing n with
  | case1 ys => exact h.length_le_of_nil
  | case2 xs => exact h.symm.length_le_of_nil
  | case3 xs x ys ih =>
      obtain ⟨m, hm, hrest⟩ := h.drop_same
      exact Nat.le_trans (ih hrest) hm
  | case4 x xs y ys hne ihboth ihleft ihright =>
      cases h with
      | keep _ _ => exact absurd rfl hne
      | insert _ h =>
          have := ihright h
          omega
      | delete _ h =>
          have := ihleft h
          omega
      | replace _ _ h =>
          have := ihboth h
          omega

end Text

namespace Query

open Text (Edits editDistance lowercase)
open Time (Instant)

/-! ## The closest shortcut -/

namespace Shortcut

/-- The first of the shortcuts to whose names the fewest edits lead, from a word in lower case. -/
structure IsFirstClosest (word : String) (s : Shortcut) (n : Nat) : Prop where
  edits : Edits n (lowercase word.toList) s.name.toList
  least : ∀ (t : Shortcut) (m : Nat), Edits m (lowercase word.toList) t.name.toList → n ≤ m
  first : ∃ before after, all = before ++ s :: after ∧
    ∀ t ∈ before, ¬ Edits n (lowercase word.toList) t.name.toList

theorem distanceFrom_eq (word : String) (s : Shortcut) :
    s.distanceFrom word = editDistance (lowercase word.toList) s.name.toList :=
  Text.distance_eq_editDistance _ _

theorem edits_distanceFrom (word : String) (s : Shortcut) :
    Edits (s.distanceFrom word) (lowercase word.toList) s.name.toList := by
  rw [distanceFrom_eq]
  exact Text.edits_editDistance _ _

theorem distanceFrom_le {word : String} {s : Shortcut} {n : Nat}
    (h : Edits n (lowercase word.toList) s.name.toList) : s.distanceFrom word ≤ n := by
  rw [distanceFrom_eq]
  exact Text.editDistance_le_of_edits h

/-- The search keeps what it has until it meets something closer. -/
theorem closest_cases (word : String) (best : Shortcut) (rest : List Shortcut) :
    (closest word best rest = best ∧ ∀ t ∈ rest, best.distanceFrom word ≤ t.distanceFrom word) ∨
      ∃ before after, rest = before ++ closest word best rest :: after ∧
        (closest word best rest).distanceFrom word < best.distanceFrom word ∧
        (∀ t ∈ before, (closest word best rest).distanceFrom word < t.distanceFrom word) ∧
        ∀ t ∈ after, (closest word best rest).distanceFrom word ≤ t.distanceFrom word := by
  induction rest generalizing best with
  | nil => exact Or.inl ⟨rfl, nofun⟩
  | cons t rest ih =>
      rw [closest]
      by_cases hcloser : t.distanceFrom word < best.distanceFrom word
      · rw [if_pos hcloser]
        rcases ih t with ⟨hkept, hrest⟩ | ⟨before, after, hsplit, hlt, hbefore, hafter⟩
        · refine Or.inr ⟨[], rest, by rw [hkept]; rfl, by rwa [hkept], nofun, ?_⟩
          rwa [hkept]
        · refine Or.inr ⟨t :: before, after, congrArg (t :: ·) hsplit, by omega, ?_, hafter⟩
          exact List.forall_mem_cons.2 ⟨hlt, hbefore⟩
      · rw [if_neg hcloser]
        rcases ih best with ⟨hkept, hrest⟩ | ⟨before, after, hsplit, hlt, hbefore, hafter⟩
        · refine Or.inl ⟨hkept, List.forall_mem_cons.2 ⟨by omega, hrest⟩⟩
        · refine Or.inr ⟨t :: before, after, congrArg (t :: ·) hsplit, hlt, ?_, hafter⟩
          exact List.forall_mem_cons.2 ⟨by omega, hbefore⟩

/-- Among all shortcuts the closest one stands before every other that is as close. -/
theorem exists_split_closest (word : String) :
    ∃ before after, all = before ++ closest word due all :: after ∧
      (∀ t ∈ before, (closest word due all).distanceFrom word < t.distanceFrom word) ∧
      ∀ t ∈ after, (closest word due all).distanceFrom word ≤ t.distanceFrom word := by
  rcases closest_cases word due all with ⟨hkept, hall⟩ | ⟨before, after, hsplit, -, hrest⟩
  · rw [hkept]
    exact ⟨[], [leech, new, marked, duplicate, distinct], rfl, nofun,
      fun t ht => hall t (List.mem_cons_of_mem due ht)⟩
  · exact ⟨before, after, hsplit, hrest⟩

theorem isFirstClosest_closest (word : String) :
    IsFirstClosest word (closest word due all) ((closest word due all).distanceFrom word) := by
  obtain ⟨before, after, hsplit, hbefore, hafter⟩ := exists_split_closest word
  refine ⟨edits_distanceFrom word _, fun t m ht => ?_, before, after, hsplit, fun t ht hedits => ?_⟩
  · have hmem := mem_all t
    have hdistance := distanceFrom_le ht
    rw [hsplit, List.mem_append, List.mem_cons] at hmem
    rcases hmem with hmem | rfl | hmem
    · have := hbefore t hmem
      omega
    · exact hdistance
    · have := hafter t hmem
      omega
  · have hdistance := distanceFrom_le hedits
    have := hbefore t ht
    omega

theorem suggestion?_eq (word : String) :
    ∃ s n, IsFirstClosest word s n ∧
      suggestion? word = if 0 < n ∧ n ≤ 2 then some s else none :=
  ⟨_, _, isFirstClosest_closest word, rfl⟩

end Shortcut

/-! ## The warnings of a query -/

/-- The word after `is` in a term that has one and whose word is no shortcut. -/
def unknownWord? (term : List Char) : Option String :=
  match split TermOp.signs true (splitMinus term).2 with
  | [field, op, value] =>
    if field = "is".toList ∧ (TermOp.ofSign? op).isSome ∧
        Shortcut.ofName? (String.ofList value) = none then
      some (String.ofList value)
    else none
  | _ => none

/-- The terms that are read: those up to the first that is refused, and that one. -/
def reached (now : Instant) : List (List Char) → List (List Char)
  | [] => []
  | t :: rest =>
    match (readTerm now t).result with
    | .ok _ => t :: reached now rest
    | .error _ => [t]

theorem warnings_pure_or_fail {α : Type} (p : Prop) [Decidable p] (a : α) (e : QueryError) :
    (if p then Reading.pure a else Reading.fail e).warnings = [] := by
  split <;> rfl

theorem warnings_compareValue (now : Instant) (field : String) (op : TermOp) (value : String) :
    (compareValue now field op value).warnings = [] := by
  unfold compareValue
  split
  · rfl
  · unfold compareText
    dsimp only
    split
    · rfl
    · exact warnings_pure_or_fail _ _ _
    · rfl
    · rfl
    · rfl
    · rfl
    · rfl

theorem warnings_shortcut (now : Instant) (s : Shortcut) : (s.term now).warnings = [] := by
  cases s with
  | due => exact warnings_compareValue now "nextReview" .atMost (String.ofList now.text)
  | marked => exact warnings_compareValue now "tag" .equal "marked"
  | leech | new | duplicate | distinct => rfl

theorem warnings_fieldTerm (now : Instant) (field : String) (op : TermOp) (value : String) :
    (fieldTerm now field op value).warnings =
      if field = "is" ∧ Shortcut.ofName? value = none then
        [.unknownShortcut value (Shortcut.suggestion? value)]
      else [] := by
  unfold fieldTerm
  by_cases hsort : field = "sortBy"
  · have hnot : ¬ (field = "is" ∧ Shortcut.ofName? value = none) := by
      rw [hsort]
      exact fun h => absurd h.1 (by decide)
    rw [if_pos hsort, if_neg hnot]
    rfl
  · rw [if_neg hsort]
    by_cases his : field = "is"
    · rw [if_pos his]
      cases hname : Shortcut.ofName? value with
      | some s =>
          have hnot : ¬ (field = "is" ∧ some s = none) := fun h => nomatch h.2
          rw [if_neg hnot]
          exact warnings_shortcut now s
      | none =>
          have hboth : field = "is" ∧ (none : Option Shortcut) = none := ⟨his, rfl⟩
          rw [if_pos hboth]
          exact congrArg (_ :: ·) (warnings_compareValue now "is" op value)
    · have hnot : ¬ (field = "is" ∧ Shortcut.ofName? value = none) := fun h => his h.1
      rw [if_neg his, if_neg hnot]
      split
      · exact warnings_compareValue now _ _ _
      · exact warnings_compareValue now _ _ _

theorem warnings_readTerm (now : Instant) (term : List Char) :
    (readTerm now term).warnings =
      (unknownWord? term).toList.map fun w => .unknownShortcut w (Shortcut.suggestion? w) := by
  show (bodyTerm now term (splitMinus term).2).warnings = _
  unfold bodyTerm unknownWord?
  generalize split TermOp.signs true (splitMinus term).2 = parts
  split
  · rfl
  · next field op value =>
    dsimp only
    cases hop : TermOp.ofSign? op with
    | none =>
        have hnot : ¬ (field = "is".toList ∧ (none : Option TermOp).isSome = true ∧
            Shortcut.ofName? (String.ofList value) = none) := fun h => nomatch h.2.1
        rw [if_neg hnot]
        rfl
    | some o =>
        have hfield : String.ofList field = "is" ↔ field = "is".toList := by
          rw [← String.toList_inj, String.toList_ofList]
        simp only [warnings_fieldTerm, hfield, Option.isSome_some, true_and]
        split <;> rfl
  · next hthree =>
    split
    · exact absurd rfl (hthree _ _ _)
    · rfl

theorem warnings_sequence (now : Instant) (ts : List (List Char)) :
    (Reading.sequence (ts.map (readTerm now))).warnings =
      (reached now ts).flatMap fun t => (readTerm now t).warnings := by
  induction ts with
  | nil => rfl
  | cons t ts ih =>
      rw [List.map_cons, Reading.sequence, reached, Reading.bind]
      cases hread : (readTerm now t).result with
      | error e => simp
      | ok a =>
          rw [List.flatMap_cons, ← ih]
          rfl

/-- Alternatives or not, a query draws the warnings of the terms that are read. -/
theorem warnings_parse (now : Instant) (text : List Char) :
    (parse now text).warnings =
      ((reached now (termsOf text)).filterMap unknownWord?).map fun w =>
        .unknownShortcut w (Shortcut.suggestion? w) := by
  have hagree := agree_terms now text
  have hsame : (parse now text).warnings =
      (Reading.sequence ((termsOf text).map (readTerm now))).warnings := by
    generalize Reading.sequence ((termsOf text).map (readTerm now)) = row at hagree ⊢
    generalize parse now text = reading at hagree ⊢
    cases hagree with
    | ok => rfl
    | error => rfl
  rw [hsame, warnings_sequence]
  induction reached now (termsOf text) with
  | nil => rfl
  | cons t ts ih =>
      rw [List.flatMap_cons, warnings_readTerm, ih, List.filterMap_cons]
      cases unknownWord? t <;> rfl

/-- Every term that is read and asks for an unknown word after `is` draws one warning, in the order
of the terms and also where a term is refused later. It names the first of the closest shortcuts if
one or two edits lead there from the word in lower case, and else it names none. -/
theorem warnings_name_closest (now : Instant) (text : List Char) :
    List.Forall₂
      (fun word warning => ∃ s n, Shortcut.IsFirstClosest word s n ∧
        warning = Warning.unknownShortcut word (if 0 < n ∧ n ≤ 2 then some s else none))
      ((reached now (termsOf text)).filterMap unknownWord?) (parse now text).warnings := by
  rw [warnings_parse, List.forall₂_map_right_iff, List.forall₂_same]
  intro word _
  obtain ⟨s, n, hclosest, hsuggestion⟩ := Shortcut.suggestion?_eq word
  exact ⟨s, n, hclosest, by rw [hsuggestion]⟩

example : (parse (.ofSeconds 0) "is:leach OR ::".toList).warnings =
    [.unknownShortcut "leach" (some .leech)] := by
  cbv

/-- A shortcut in capitals is unknown. No edit leads to its name, so it is the closest, and still it
is not suggested. -/
theorem shortcut_in_capitals_not_suggested :
    (∀ s : Shortcut, s.name ≠ "DUE") ∧ Shortcut.IsFirstClosest "DUE" .due 0 ∧
      (parse (.ofSeconds 0) "is:DUE".toList).warnings = [.unknownShortcut "DUE" none] := by
  have hlower : lowercase "DUE".toList = ['d', 'u', 'e'] := by decide
  have hedits : Edits 0 (lowercase "DUE".toList) ['d', 'u', 'e'] := by
    rw [hlower]
    exact .keep 'd' (.keep 'u' (.keep 'e' .done))
  refine ⟨fun s => ?_, ⟨hedits, fun _ m _ => Nat.zero_le m, [], _, rfl, nofun⟩, by cbv⟩
  cases s <;> decide

end Query

end CardSearch
