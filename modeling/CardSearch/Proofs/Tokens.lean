import CardSearch.Proofs.Scan
import Mathlib.Data.List.Chain

/-!
# Tokens, and which of them are separators

The tokens of a text are its separators and the texts between them. What a token
is does not show in its characters: quoted text may read like a separator. Here
tokens keep their kind (`labelled`), and the tokens of the scan are these with the
kind left out, the separators dropped or not (`tokens_eq`).

In a text without quotation marks, brackets and backslashes the scan is a plain
walk from left to right, and its tokens are the only ones that leave no separator
inside a text, keep texts apart and take the longest separator at its place. The
argument is about the first token: whether it is a separator is told by the text
alone, and so is its end.
-/

namespace CardSearch.Query

/-- A token, which is never empty. -/
structure Token where
  chars : List Char
  /-- Whether the token is a separator. -/
  isMark : Bool
  chars_ne_nil : chars ≠ []
deriving DecidableEq, Repr

namespace Token

theorem eq_of_chars_of_isMark {t u : Token} (hchars : t.chars = u.chars)
    (hkind : t.isMark = u.isMark) : t = u := by
  obtain ⟨chars, isMark, hne⟩ := t
  obtain ⟨chars', isMark', hne'⟩ := u
  obtain rfl : chars = chars' := hchars
  obtain rfl : isMark = isMark' := hkind
  rfl

theorem length_pos (t : Token) : 0 < t.chars.length := List.length_pos_iff.2 t.chars_ne_nil

/-- The text as a token, unless it is empty. -/
def ofText (s : List Char) : List Token := if h : s = [] then [] else [⟨s, false, h⟩]

/-- The separator as a token, unless it is empty. -/
def ofMark (sep : List Char) : List Token := if h : sep = [] then [] else [⟨sep, true, h⟩]

/-- The tokens with a character of text in front. -/
def push (c : Char) : List Token → List Token
  | [] => [⟨[c], false, by simp⟩]
  | t :: ts =>
    if t.isMark then ⟨[c], false, by simp⟩ :: t :: ts else ⟨c :: t.chars, false, by simp⟩ :: ts

end Token

/-- The tokens of the pieces, with their kinds. -/
def labelledPieces : List Piece → List Token
  | [] => []
  | .text c :: rest => Token.push c (labelledPieces rest)
  | .hidden _ :: rest => labelledPieces rest
  | .mark sep :: rest => Token.ofMark sep ++ labelledPieces rest

/-- The tokens of a text, with their kinds. -/
def labelled (seps : List (List Char)) (s : List Char) : List Token :=
  labelledPieces (pieces (orderSeparators seps) .start false (stripBrackets s))

/-! ## Tokens without their kinds -/

/-- No text token comes first. -/
def StartsWithMark (ts : List Token) : Prop := ∀ t ∈ ts.head?, t.isMark = true

theorem push_ofText_append {ts : List Token} (h : StartsWithMark ts) (c : Char) (s : List Char) :
    Token.push c (Token.ofText s ++ ts) = Token.ofText (c :: s) ++ ts := by
  unfold Token.ofText
  rw [dif_neg (List.cons_ne_nil c s)]
  by_cases hs : s = []
  · subst hs
    rw [dif_pos rfl, List.nil_append]
    cases ts with
    | nil => rfl
    | cons t ts => exact if_pos (h t rfl)
  · rw [dif_neg hs]
    rfl

theorem filter_ofText (keep : Bool) (s : List Char) :
    ((Token.ofText s).filter fun t => keep || !t.isMark).map Token.chars = flush s := by
  unfold Token.ofText flush
  by_cases hs : s = []
  · rw [dif_pos hs, if_pos hs]
    rfl
  · rw [dif_neg hs, if_neg hs]
    simp

theorem filter_ofMark (keep : Bool) {sep : List Char} (h : sep ≠ []) :
    ((Token.ofMark sep).filter fun t => keep || !t.isMark).map Token.chars =
      if keep then [sep] else [] := by
  unfold Token.ofMark
  rw [dif_neg h]
  cases keep <;> rfl

/-- The scan assembles the labelled tokens: a text at first, and what a separator begins. -/
theorem exists_labelledPieces_eq {ps : List Piece} (hne : ∀ sep, .mark sep ∈ ps → sep ≠ [])
    (keep : Bool) :
    ∃ ts, labelledPieces ps = Token.ofText (assemble keep ps).1 ++ ts ∧ StartsWithMark ts ∧
      (assemble keep ps).2 = (ts.filter fun t => keep || !t.isMark).map Token.chars := by
  induction ps with
  | nil => exact ⟨[], rfl, fun t ht => (nomatch ht), rfl⟩
  | cons p ps ih =>
      obtain ⟨ts, heq, hstart, hrest⟩ := ih fun sep hsep => hne sep (List.mem_cons_of_mem p hsep)
      cases p with
      | text c =>
          refine ⟨ts, ?_, hstart, hrest⟩
          rw [labelledPieces, heq, push_ofText_append hstart]
          rfl
      | hidden c => exact ⟨ts, heq, hstart, hrest⟩
      | mark sep =>
          have hsep := hne sep List.mem_cons_self
          refine ⟨Token.ofMark sep ++ (Token.ofText (assemble keep ps).1 ++ ts), ?_, ?_, ?_⟩
          · rw [labelledPieces, heq]
            rfl
          · intro t ht
            rw [Token.ofMark, dif_neg hsep] at ht
            obtain rfl := Option.some.inj ht
            rfl
          · simp only [assemble, hrest, List.filter_append, List.map_append,
              filter_ofMark keep hsep, filter_ofText, List.append_assoc]

/-- The tokens are the labelled ones, of which separators are dropped unless they are kept. -/
theorem tokens_eq {ps : List Piece} (hne : ∀ sep, .mark sep ∈ ps → sep ≠ []) (keep : Bool) :
    tokens keep ps =
      ((labelledPieces ps).filter fun t => keep || !t.isMark).map Token.chars := by
  obtain ⟨ts, heq, -, hrest⟩ := exists_labelledPieces_eq hne keep
  rw [tokens, hrest, heq, List.filter_append, List.map_append, filter_ofText]

theorem ne_nil_of_mark_mem_pieces {seps : List (List Char)} {m : Mode} {escaped : Bool}
    {s sep : List Char} (h : .mark sep ∈ pieces (orderSeparators seps) m escaped s) : sep ≠ [] :=
  ne_nil_of_mem_orderSeparators (mem_of_mark_mem_pieces h)

theorem split_eq_labelled (seps : List (List Char)) (keep : Bool) (s : List Char) :
    split seps keep s =
      ((labelled seps s).filter fun t => keep || !t.isMark).map Token.chars :=
  tokens_eq (fun _ => ne_nil_of_mark_mem_pieces) keep

theorem split_true_eq_labelled (seps : List (List Char)) (s : List Char) :
    split seps true s = (labelled seps s).map Token.chars := by
  rw [split_eq_labelled]
  simp only [Bool.true_or, List.filter_true]

/-! ## Tokenizations of a plain text -/

/-- A token stands in a row, with a number of characters before it. -/
def StandsAt (ts : List Token) (n : Nat) (t : Token) : Prop :=
  ∃ before after, ts = before ++ t :: after ∧ (before.flatMap Token.chars).length = n

/-- The longest of the separators that a text begins with. -/
structure IsLongestAt (seps : List (List Char)) (sep s : List Char) : Prop where
  mem : sep ∈ seps
  starts : sep <+: s
  longest : ∀ other ∈ seps, other <+: s → other.length ≤ sep.length

/-- No separator begins the text, empty ones aside. -/
def IsClearOf (seps : List (List Char)) (s : List Char) : Prop :=
  ∀ sep ∈ seps, sep ≠ [] → ¬ sep <+: s

/-- A row of tokens that cuts a text at its separators. -/
structure IsTokenization (seps : List (List Char)) (s : List Char) (ts : List Token) : Prop where
  flatMap_chars : ts.flatMap Token.chars = s
  /-- No two texts are neighbours. -/
  apart : ts.IsChain fun t u => t.isMark = true ∨ u.isMark = true
  clear : ∀ n t, StandsAt ts n t → t.isMark = false →
    ∀ i < t.chars.length, IsClearOf seps (s.drop (n + i))
  longest : ∀ n t, StandsAt ts n t → t.isMark = true → IsLongestAt seps t.chars (s.drop n)

theorem not_standsAt_nil {n : Nat} {t : Token} : ¬ StandsAt [] n t := by
  rintro ⟨before, after, h, -⟩
  simp at h

theorem standsAt_cons {u t : Token} {ts : List Token} {n : Nat} :
    StandsAt (u :: ts) n t ↔
      n = 0 ∧ t = u ∨ ∃ k, n = u.chars.length + k ∧ StandsAt ts k t := by
  constructor
  · rintro ⟨before, after, h, rfl⟩
    cases before with
    | nil =>
        obtain ⟨rfl, -⟩ := List.cons.inj h
        exact Or.inl ⟨rfl, rfl⟩
    | cons v before =>
        obtain ⟨rfl, rfl⟩ := List.cons.inj h
        refine Or.inr ⟨(before.flatMap Token.chars).length, ?_, before, after, rfl, rfl⟩
        rw [List.flatMap_cons, List.length_append]
  · rintro (⟨rfl, rfl⟩ | ⟨k, rfl, before, after, rfl, rfl⟩)
    · exact ⟨[], ts, rfl, rfl⟩
    · refine ⟨u :: before, after, rfl, ?_⟩
      rw [List.flatMap_cons, List.length_append]

theorem isTokenization_nil {seps : List (List Char)} {s : List Char} :
    IsTokenization seps s [] ↔ s = [] := by
  constructor
  · exact fun h => h.flatMap_chars.symm
  · rintro rfl
    exact ⟨rfl, .nil, fun n t h => absurd h not_standsAt_nil,
      fun n t h => absurd h not_standsAt_nil⟩

/-- A tokenization is a first token that is as it must be, and a tokenization of the rest. -/
theorem isTokenization_cons {seps : List (List Char)} {s : List Char} {t : Token}
    {ts : List Token} :
    IsTokenization seps (t.chars ++ s) (t :: ts) ↔
      (t.isMark = true → IsLongestAt seps t.chars (t.chars ++ s)) ∧
      (t.isMark = false → StartsWithMark ts ∧
        ∀ i < t.chars.length, IsClearOf seps ((t.chars ++ s).drop i)) ∧
      IsTokenization seps s ts := by
  have hdrop : ∀ k, (t.chars ++ s).drop (t.chars.length + k) = s.drop k := fun k => by
    rw [List.drop_append, List.drop_of_length_le (by omega), List.nil_append]
    congr 1
    omega
  constructor
  · intro h
    have hfirst : StandsAt (t :: ts) 0 t := standsAt_cons.2 (Or.inl ⟨rfl, rfl⟩)
    have hlater : ∀ {k u}, StandsAt ts k u → StandsAt (t :: ts) (t.chars.length + k) u :=
      fun hu => standsAt_cons.2 (Or.inr ⟨_, rfl, hu⟩)
    refine ⟨fun hmark => h.longest 0 t hfirst hmark, fun htext => ⟨?_, ?_⟩, ?_, ?_, ?_, ?_⟩
    · intro u hu
      have hpair := (List.isChain_cons.1 h.apart).1 u hu
      rw [htext] at hpair
      exact hpair.resolve_left Bool.false_ne_true
    · intro i hi
      have hclear := h.clear 0 t hfirst htext i hi
      rwa [Nat.zero_add] at hclear
    · exact List.append_cancel_left h.flatMap_chars
    · exact (List.isChain_cons.1 h.apart).2
    · intro k u hu htext i hi
      have hclear := h.clear _ u (hlater hu) htext i hi
      rwa [Nat.add_assoc, hdrop] at hclear
    · intro k u hu hmark
      have hlongest := h.longest _ u (hlater hu) hmark
      rwa [hdrop] at hlongest
  · rintro ⟨hmark, htext, h⟩
    refine ⟨?_, ?_, ?_, ?_⟩
    · rw [List.flatMap_cons, h.flatMap_chars]
    · refine List.isChain_cons.2 ⟨fun u hu => ?_, h.apart⟩
      cases hkind : t.isMark with
      | true => exact Or.inl rfl
      | false => exact Or.inr ((htext hkind).1 u hu)
    · intro n u hu hkind i hi
      rcases standsAt_cons.1 hu with ⟨rfl, rfl⟩ | ⟨k, rfl, hlater⟩
      · rw [Nat.zero_add]
        exact (htext hkind).2 i hi
      · rw [Nat.add_assoc, hdrop]
        exact h.clear k u hlater hkind i hi
    · intro n u hu hkind
      rcases standsAt_cons.1 hu with ⟨rfl, rfl⟩ | ⟨k, rfl, hlater⟩
      · exact hmark hkind
      · rw [hdrop]
        exact h.longest k u hlater hkind

theorem IsTokenization.cons_text {seps : List (List Char)} {s : List Char} {ts : List Token}
    (h : IsTokenization seps s ts) (hstart : StartsWithMark ts) (t : Token)
    (hkind : t.isMark = false)
    (hclear : ∀ i < t.chars.length, IsClearOf seps ((t.chars ++ s).drop i)) :
    IsTokenization seps (t.chars ++ s) (t :: ts) := by
  refine isTokenization_cons.2 ⟨fun hmark => ?_, fun _ => ⟨hstart, hclear⟩, h⟩
  rw [hkind] at hmark
  cases hmark

theorem IsTokenization.cons_mark {seps : List (List Char)} {s : List Char} {ts : List Token}
    (h : IsTokenization seps s ts) (t : Token) (hkind : t.isMark = true)
    (hlongest : IsLongestAt seps t.chars (t.chars ++ s)) :
    IsTokenization seps (t.chars ++ s) (t :: ts) := by
  refine isTokenization_cons.2 ⟨fun _ => hlongest, fun htext => ?_, h⟩
  rw [hkind] at htext
  cases htext

/-! ## There is only one -/

theorem IsLongestAt.unique {seps : List (List Char)} {sep sep' s : List Char}
    (h : IsLongestAt seps sep s) (h' : IsLongestAt seps sep' s) : sep = sep' := by
  have hlen : sep.length = sep'.length :=
    Nat.le_antisymm (h'.longest sep h.mem h.starts) (h.longest sep' h'.mem h'.starts)
  exact (List.prefix_of_prefix_length_le h.starts h'.starts (Nat.le_of_eq hlen)).eq_of_length hlen

theorem not_isTokenization_nil_cons {seps : List (List Char)} {t : Token} {ts : List Token} :
    ¬ IsTokenization seps [] (t :: ts) := fun h => by
  have hchars := h.flatMap_chars
  rw [List.flatMap_cons, List.append_eq_nil_iff] at hchars
  exact t.chars_ne_nil hchars.1

section First

variable {seps : List (List Char)} {t u : Token} {ts us : List Token} {s s' : List Char}
  (hs : t.chars ++ s = u.chars ++ s')
  (h : IsTokenization seps (t.chars ++ s) (t :: ts))
  (h' : IsTokenization seps (u.chars ++ s') (u :: us))
include hs h h'

theorem first_isMark (ht : t.isMark = true) : u.isMark = true := by
  have hlongest := (isTokenization_cons.1 h).1 ht
  cases hu : u.isMark with
  | true => rfl
  | false =>
      -- A separator stands where the text begins.
      have hclear := ((isTokenization_cons.1 h').2.1 hu).2 0 u.length_pos
      rw [List.drop_zero, ← hs] at hclear
      exact absurd hlongest.starts (hclear t.chars hlongest.mem t.chars_ne_nil)

/-- A text goes on at least as far as another one that begins at its place. -/
theorem first_length_le (ht : t.isMark = false) (hu : u.isMark = false) :
    u.chars.length ≤ t.chars.length := by
  obtain ⟨-, htext, hrest⟩ := isTokenization_cons.1 h
  obtain ⟨-, htext', -⟩ := isTokenization_cons.1 h'
  refine Nat.le_of_not_lt fun hlt => ?_
  cases ts with
  | nil =>
      rw [isTokenization_nil.1 hrest, List.append_nil] at hs
      have hlen := congrArg List.length hs
      rw [List.length_append] at hlen
      omega
  | cons v ts =>
      -- A separator begins where the first text ends, inside the second one.
      have hmark := hrest.longest 0 v ⟨[], ts, rfl, rfl⟩ ((htext ht).1 v rfl)
      have hdrop : (u.chars ++ s').drop t.chars.length = s := by rw [← hs, List.drop_left]
      have hnone := (htext' hu).2 _ hlt v.chars hmark.mem v.chars_ne_nil
      rw [hdrop] at hnone
      exact hnone hmark.starts

end First

/-- The first token is the same in every tokenization. -/
theorem first_unique {seps : List (List Char)} {t u : Token} {ts us : List Token}
    {s s' : List Char} (hs : t.chars ++ s = u.chars ++ s')
    (h : IsTokenization seps (t.chars ++ s) (t :: ts))
    (h' : IsTokenization seps (u.chars ++ s') (u :: us)) : t = u := by
  have hkind : t.isMark = u.isMark :=
    Bool.eq_iff_iff.2 ⟨first_isMark hs h h', first_isMark hs.symm h' h⟩
  refine Token.eq_of_chars_of_isMark ?_ hkind
  cases ht : t.isMark with
  | true =>
      have hlongest := (isTokenization_cons.1 h).1 ht
      have hlongest' := (isTokenization_cons.1 h').1 (hkind ▸ ht)
      rw [← hs] at hlongest'
      exact hlongest.unique hlongest'
  | false =>
      have hu : u.isMark = false := hkind ▸ ht
      have hlen := Nat.le_antisymm (first_length_le hs.symm h' h hu ht)
        (first_length_le hs h h' ht hu)
      exact List.append_inj_left hs hlen

theorem IsTokenization.unique {seps : List (List Char)} {s : List Char} {ts us : List Token}
    (h : IsTokenization seps s ts) (h' : IsTokenization seps s us) : ts = us := by
  induction ts generalizing s us with
  | nil =>
      obtain rfl := isTokenization_nil.1 h
      cases us with
      | nil => rfl
      | cons u us => exact absurd h' not_isTokenization_nil_cons
  | cons t ts ih =>
      cases us with
      | nil =>
          obtain rfl := isTokenization_nil.1 h'
          exact absurd h not_isTokenization_nil_cons
      | cons u us =>
          obtain ⟨rest, rfl⟩ : ∃ rest, s = t.chars ++ rest := ⟨_, h.flatMap_chars.symm⟩
          obtain ⟨rest', hs⟩ : ∃ rest', t.chars ++ rest = u.chars ++ rest' :=
            ⟨_, h'.flatMap_chars.symm⟩
          rw [hs] at h'
          obtain rfl := first_unique hs h h'
          obtain rfl := List.append_cancel_left hs
          rw [ih (isTokenization_cons.1 h).2.2 (isTokenization_cons.1 h').2.2]

/-! ## The scan finds it -/

/-- Whether a character neither quotes nor groups. -/
def isPlain (c : Char) : Bool := c != '"' && c != '(' && c != ')'

theorem after?_of_isPlain {c : Char} (h : isPlain c = true) (m : Mode) (escaped : Bool) :
    m.after? escaped c = none := by
  simp only [isPlain, Bool.and_eq_true, bne_iff_ne] at h
  unfold Mode.after?
  split
  · rfl
  · rw [if_neg h.1.1, if_neg fun hc => h.1.2 hc.1, if_neg fun hc => h.2 hc.1]

/-- In the open the separator that counts is the longest at its place. -/
theorem isLongestAt_of_separatorAt? {seps : List (List Char)} {sep s : List Char}
    (h : separatorAt? (orderSeparators seps) s = some sep) : IsLongestAt seps sep s := by
  obtain ⟨hstarts, before, after, horder, hbefore⟩ := List.find?_eq_some_iff_append.1 h
  have hsorted : (orderSeparators seps).Pairwise fun a b => b.length ≤ a.length := by
    let le (a b : List Char) : Bool := decide (b.length ≤ a.length)
    have htrans : ∀ a b c, le a b → le b c → le a c := fun a b c hab hbc =>
      decide_eq_true (Nat.le_trans (of_decide_eq_true hbc) (of_decide_eq_true hab))
    have htotal : ∀ a b, le a b || le b a := fun a b => by
      rw [Bool.or_eq_true, decide_eq_true_iff, decide_eq_true_iff]
      exact Nat.le_total _ _
    exact (List.pairwise_mergeSort htrans htotal (seps.filter (· ≠ []))).imp of_decide_eq_true
  refine ⟨(mem_orderSeparators.1 (List.mem_of_find?_eq_some h)).1,
    List.isPrefixOf_iff_prefix.1 hstarts, fun other hmem hother => ?_⟩
  by_cases hnil : other = []
  · rw [hnil]
    exact Nat.zero_le _
  · have hplace : other ∈ orderSeparators seps := mem_orderSeparators.2 ⟨hmem, hnil⟩
    rw [horder] at hplace hsorted
    rcases List.mem_append.1 hplace with hearlier | hlater
    · have hnot := hbefore other hearlier
      rw [List.isPrefixOf_iff_prefix.2 hother] at hnot
      cases hnot
    · rcases List.mem_cons.1 hlater with rfl | hlater
      · exact Nat.le_refl _
      · exact (List.pairwise_cons.1 (List.pairwise_append.1 hsorted).2.1).1 other hlater

theorem isClearOf_of_separatorAt? {seps : List (List Char)} {s : List Char}
    (h : separatorAt? (orderSeparators seps) s = none) : IsClearOf seps s := by
  intro sep hmem hne hstarts
  have hnot := List.find?_eq_none.1 h sep (mem_orderSeparators.2 ⟨hmem, hne⟩)
  exact hnot (List.isPrefixOf_iff_prefix.2 hstarts)

/-- A character at which no separator begins goes to the text at the front. -/
theorem IsTokenization.push {seps : List (List Char)} {s : List Char} {ts : List Token}
    (h : IsTokenization seps s ts) {c : Char} (hc : IsClearOf seps (c :: s)) :
    IsTokenization seps (c :: s) (Token.push c ts) := by
  have hsingle : StartsWithMark ts →
      IsTokenization seps (c :: s) (⟨[c], false, by simp⟩ :: ts) := fun hstart => by
    refine h.cons_text hstart ⟨[c], false, by simp⟩ rfl fun i hi => ?_
    obtain rfl : i = 0 := Nat.lt_one_iff.1 hi
    exact hc
  cases ts with
  | nil => exact hsingle fun t ht => nomatch ht
  | cons t ts =>
      cases hkind : t.isMark with
      | true =>
          rw [Token.push, if_pos hkind]
          refine hsingle fun u hu => ?_
          obtain rfl := Option.some.inj hu
          exact hkind
      | false =>
          rw [Token.push, if_neg (by rw [hkind]; exact Bool.false_ne_true)]
          obtain ⟨rest, rfl⟩ : ∃ rest, s = t.chars ++ rest := ⟨_, h.flatMap_chars.symm⟩
          obtain ⟨-, htext, hrest⟩ := isTokenization_cons.1 h
          obtain ⟨hstart, hclear⟩ := htext hkind
          refine hrest.cons_text hstart ⟨c :: t.chars, false, by simp⟩ rfl fun i hi => ?_
          cases i with
          | zero => exact hc
          | succ i => exact hclear i (Nat.lt_of_succ_lt_succ hi)

theorem isTokenization_pieces (seps : List (List Char)) {s : List Char}
    (hs : ∀ c ∈ s, isPlain c = true ∧ c ≠ '\\') :
    IsTokenization seps s (labelledPieces (pieces (orderSeparators seps) .start false s)) := by
  -- A separator is taken off whole, so the induction is on the length of the text.
  induction hn : s.length using Nat.strongRecOn generalizing s with
  | _ n ih =>
      cases s with
      | nil => rw [pieces_nil]; exact isTokenization_nil.2 rfl
      | cons c rest =>
          obtain ⟨hplain, hback⟩ := hs c List.mem_cons_self
          have hmode := after?_of_isPlain hplain .start false
          cases hsep : separatorIn? (orderSeparators seps) .start false (c :: rest) with
          | none =>
              rw [pieces_cons_text hmode hsep, beq_eq_false_iff_ne.2 hback, labelledPieces]
              refine IsTokenization.push ?_ (isClearOf_of_separatorAt? hsep)
              exact ih _ (by rw [← hn]; exact Nat.lt_succ_self _)
                (fun d hd => hs d (List.mem_cons_of_mem c hd)) rfl
          | some sep =>
              have hne := ne_nil_of_mem_orderSeparators (mem_of_separatorIn?_eq_some hsep)
              obtain ⟨d, more, rfl⟩ := List.exists_cons_of_ne_nil hne
              have happ := append_drop_of_separatorIn? hsep
              have hrest : (c :: rest).drop (d :: more).length =
                  rest.drop ((d :: more).length - 1) := rfl
              have hlast : ((d :: more).getLast? == some '\\') = false := by
                refine beq_eq_false_iff_ne.2 fun hlast => ?_
                have hmem : '\\' ∈ c :: rest := by
                  rw [← happ]
                  exact List.mem_append_left _ (List.mem_of_getLast? hlast)
                exact (hs _ hmem).2 rfl
              have hshorter : (rest.drop ((d :: more).length - 1)).length < n := by
                rw [List.length_drop, ← hn, List.length_cons]
                exact Nat.lt_succ_of_le (Nat.sub_le _ _)
              have hlater := ih _ hshorter
                (fun e he => hs e (List.mem_cons_of_mem c (List.mem_of_mem_drop he))) rfl
              have hlongest := isLongestAt_of_separatorAt? (hsep : separatorAt? _ _ = some _)
              rw [pieces_cons_mark hmode hsep, hlast, labelledPieces, Token.ofMark, dif_neg hne]
              rw [hrest] at happ
              rw [← happ] at hlongest ⊢
              exact hlater.cons_mark ⟨d :: more, true, hne⟩ rfl hlongest

/-- In a text without quotation marks, brackets and backslashes the tokens, kept
separators among them, are the only row that cuts the text at its separators:
no separator begins inside a text token, texts are apart, and a separator token
is the longest at its place. -/
theorem split_cuts_at_longest_separators (seps : List (List Char)) {s : List Char}
    (hs : ∀ c ∈ s, c ≠ '"' ∧ c ≠ '(' ∧ c ≠ ')' ∧ c ≠ '\\') :
    split seps true s = (labelled seps s).map Token.chars ∧
      ∀ ts, IsTokenization seps s ts ↔ ts = labelled seps s := by
  have hplain : ∀ c ∈ s, isPlain c = true ∧ c ≠ '\\' := fun c hc => by
    simpa [isPlain, and_assoc] using hs c hc
  have hstrip : stripBrackets s = s := by
    refine stripBrackets_eq_self fun hhead => ?_
    exact (hs '(' (List.mem_of_head? hhead)).2.1 rfl
  have hfound : IsTokenization seps s (labelled seps s) := by
    rw [labelled, hstrip]
    exact isTokenization_pieces seps hplain
  refine ⟨split_true_eq_labelled seps s, fun ts => ⟨fun h => h.unique hfound, ?_⟩⟩
  rintro rfl
  exact hfound

theorem split_cuts_at_longest_separators_atLeast :
    (∀ c ∈ "a>=b".toList, c ≠ '"' ∧ c ≠ '(' ∧ c ≠ ')' ∧ c ≠ '\\') ∧
      split [['>'], ['='], ['>', '=']] true "a>=b".toList =
        ["a".toList, ">=".toList, "b".toList] := by
  have hs : ∀ c ∈ "a>=b".toList, c ≠ '"' ∧ c ≠ '(' ∧ c ≠ ')' ∧ c ≠ '\\' := by simp
  obtain ⟨hsplit, honly⟩ := split_cuts_at_longest_separators [['>'], ['='], ['>', '=']] hs
  have hb : IsTokenization [['>'], ['='], ['>', '=']] ['b'] [⟨['b'], false, by decide⟩] := by
    refine (isTokenization_nil.2 rfl).cons_text (fun t ht => nomatch ht) ⟨['b'], false, _⟩ rfl ?_
    unfold IsClearOf
    decide
  have hsign : IsTokenization [['>'], ['='], ['>', '=']] ['>', '=', 'b']
      [⟨['>', '='], true, by decide⟩, ⟨['b'], false, by decide⟩] :=
    hb.cons_mark ⟨['>', '='], true, by decide⟩ rfl ⟨by decide, by decide, by decide⟩
  have hfound := hsign.cons_text (fun t ht => by cases ht; rfl) ⟨['a'], false, by decide⟩ rfl (by
    unfold IsClearOf
    decide)
  refine ⟨hs, ?_⟩
  rw [hsplit, ← (honly _).1 hfound]
  rfl

end CardSearch.Query
