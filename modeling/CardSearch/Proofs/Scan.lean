import CardSearch.Query.Split
import Mathlib.Data.List.Find

/-!
# The scan, cut in two

`pieces` reads a text from left to right, and all it carries from one character
to the next is the mode and whether a backslash came just before. So a scan can
be cut anywhere: the pieces of `s ++ t` are those of `s` and then those of `t`,
read on from where `s` ended. With separators of one character this holds at
every place (`pieces_append`); with longer ones it holds where no separator
reaches across the cut, which is what `Passes` asks of the first part.

Tokens are cut at separators only. `tokens_append_mark` says so, and the
hidden marks never show (`tokens_append_hidden`). What the tokens hold is the
text with some characters left out, in its order: `flatten_split_sublist`. A
token as long as its text is therefore that text, and nothing was cut or
hidden; the last section turns this round.
-/

namespace CardSearch.Query

theorem mem_orderSeparators {seps : List (List Char)} {sep : List Char} :
    sep ∈ orderSeparators seps ↔ sep ∈ seps ∧ sep ≠ [] := by
  rw [orderSeparators, List.mem_mergeSort, List.mem_filter, decide_eq_true_iff]

/-! ## Where a text leaves the scan -/

/-- The mode after a text that is read in a mode. -/
def Mode.after (m : Mode) (escaped : Bool) : List Char → Mode
  | [] => m
  | c :: rest => ((m.after? escaped c).getD m).after (c == '\\') rest

/-- Whether a backslash stands just before what follows a text. -/
def endsEscaped (escaped : Bool) : List Char → Bool
  | [] => escaped
  | c :: rest => endsEscaped (c == '\\') rest

theorem endsEscaped_eq_false {escaped : Bool} {s : List Char} (hs : s ≠ [])
    (h : s.getLast? ≠ some '\\') : endsEscaped escaped s = false := by
  induction s generalizing escaped with
  | nil => exact absurd rfl hs
  | cons c rest ih =>
      cases rest with
      | nil => simpa [endsEscaped] using h
      | cons d more =>
          rw [endsEscaped]
          exact ih (by simp) (by simpa using h)

/-- A character that quotes or groups is not a backslash. -/
theorem Mode.ne_backslash_of_after? {m m' : Mode} {escaped : Bool} {c : Char}
    (h : m.after? escaped c = some m') : (c == '\\') = false := by
  unfold Mode.after? at h
  split at h
  · cases h
  · split at h
    · next hq => subst hq; rfl
    · split at h
      · next hg => rw [hg.1]; rfl
      · split at h
        · next hg => rw [hg.1]; rfl
        · cases h

/-! ## One character at a time -/

@[simp] theorem pieces_nil (seps : List (List Char)) (m : Mode) (escaped : Bool) :
    pieces seps m escaped [] = [] := by
  rw [pieces]

theorem pieces_cons_hidden {seps : List (List Char)} {m m' : Mode} {escaped : Bool} {c : Char}
    (h : m.after? escaped c = some m') (rest : List Char) :
    pieces seps m escaped (c :: rest) = .hidden c :: pieces seps m' false rest := by
  rw [pieces, h]

theorem pieces_cons_mark {seps : List (List Char)} {m : Mode} {escaped : Bool} {c : Char}
    {rest sep : List Char} (h : m.after? escaped c = none)
    (hsep : separatorIn? seps m escaped (c :: rest) = some sep) :
    pieces seps m escaped (c :: rest) =
      .mark sep :: pieces seps m (sep.getLast? == some '\\') (rest.drop (sep.length - 1)) := by
  rw [pieces, h]
  simp only [hsep]

theorem pieces_cons_text {seps : List (List Char)} {m : Mode} {escaped : Bool} {c : Char}
    {rest : List Char} (h : m.after? escaped c = none)
    (hsep : separatorIn? seps m escaped (c :: rest) = none) :
    pieces seps m escaped (c :: rest) = .text c :: pieces seps m (c == '\\') rest := by
  rw [pieces, h]
  simp only [hsep]

/-- The marks are separators. -/
theorem mem_of_mark_mem_pieces {seps : List (List Char)} {m : Mode} {escaped : Bool}
    {s sep : List Char} (h : .mark sep ∈ pieces seps m escaped s) : sep ∈ seps := by
  fun_induction pieces seps m escaped s with
  | case1 => cases h
  | case2 m escaped c rest m' hm ih =>
      rcases List.mem_cons.1 h with heq | hmem
      · cases heq
      · exact ih hmem
  | case3 m escaped c rest hm sep' hsep ih =>
      rcases List.mem_cons.1 h with heq | hmem
      · obtain rfl := Piece.mark.inj heq
        exact mem_of_separatorIn?_eq_some hsep
      · exact ih hmem
  | case4 m escaped c rest hm hsep ih =>
      rcases List.mem_cons.1 h with heq | hmem
      · cases heq
      · exact ih hmem

/-! ## Cutting at any place

A separator of one character is found or not by looking at that character
alone, so what follows the cut cannot matter. -/

section Single

variable {seps : List (List Char)} (hone : ∀ sep ∈ seps, sep.length = 1)

include hone

theorem separatorIn?_of_single {m : Mode} {escaped : Bool} {c : Char} {rest sep : List Char}
    (h : separatorIn? seps m escaped (c :: rest) = some sep) : sep = [c] := by
  have happ := append_drop_of_separatorIn? h
  obtain ⟨d, rfl⟩ := List.length_eq_one_iff.1 (hone sep (mem_of_separatorIn?_eq_some h))
  simpa using congrArg List.head? happ

theorem separatorIn?_cons_congr (m : Mode) (escaped : Bool) (c : Char) (s t : List Char) :
    separatorIn? seps m escaped (c :: s) = separatorIn? seps m escaped (c :: t) := by
  have hprefix : ∀ sep ∈ seps, sep.isPrefixOf (c :: s) = sep.isPrefixOf (c :: t) := by
    intro sep hsep
    obtain ⟨d, rfl⟩ := List.length_eq_one_iff.1 (hone sep hsep)
    rfl
  have hfind : separatorAt? seps (c :: s) = separatorAt? seps (c :: t) := by
    unfold separatorAt?
    exact List.find?_congr hprefix
  unfold separatorIn?
  rw [hfind]

/-- The pieces of two texts in a row are those of the first and then those of
the second, read on from where the first left the scan. -/
theorem pieces_append (m : Mode) (escaped : Bool) (s t : List Char) :
    pieces seps m escaped (s ++ t) =
      pieces seps m escaped s ++ pieces seps (m.after escaped s) (endsEscaped escaped s) t := by
  induction s generalizing m escaped with
  | nil => rw [List.nil_append, pieces_nil, List.nil_append]; rfl
  | cons c rest ih =>
      rw [List.cons_append, Mode.after, endsEscaped]
      cases hm : m.after? escaped c with
      | some m' =>
          have hc := Mode.ne_backslash_of_after? hm
          rw [pieces_cons_hidden hm, pieces_cons_hidden hm, ih, hc]
          rfl
      | none =>
          have hcongr := separatorIn?_cons_congr hone m escaped c (rest ++ t) rest
          cases hsep : separatorIn? seps m escaped (c :: rest) with
          | none =>
              rw [pieces_cons_text hm (hcongr.trans hsep), pieces_cons_text hm hsep, ih]
              rfl
          | some sep =>
              obtain rfl := separatorIn?_of_single hone hsep
              rw [pieces_cons_mark hm (hcongr.trans hsep), pieces_cons_mark hm hsep]
              show Piece.mark [c] :: pieces seps m (some c == some '\\') (rest ++ t) =
                Piece.mark [c] :: pieces seps m (some c == some '\\') rest ++ _
              rw [ih]
              rfl

end Single

/-! ## Text that passes

Some characters are part of a token wherever the scan meets them in a mode.
`Passes` asks this of each character of a text, with what follows the text in
sight, because a longer separator may start in the one and end in the other. -/

/-- Whether all of a text is taken over into a token, `rest` coming after it. -/
def Passes (seps : List (List Char)) (m : Mode) (rest : List Char) : Bool → List Char → Prop
  | _, [] => True
  | escaped, c :: s =>
    m.after? escaped c = none ∧ separatorIn? seps m escaped (c :: (s ++ rest)) = none ∧
      Passes seps m rest (c == '\\') s

theorem pieces_append_of_passes {seps : List (List Char)} {m : Mode} {escaped : Bool}
    {s rest : List Char} (h : Passes seps m rest escaped s) :
    pieces seps m escaped (s ++ rest) =
      s.map .text ++ pieces seps m (endsEscaped escaped s) rest := by
  induction s generalizing escaped with
  | nil => rfl
  | cons c s ih =>
      obtain ⟨hm, hsep, hs⟩ := h
      rw [List.cons_append, pieces_cons_text hm hsep, ih hs]
      rfl

theorem pieces_of_passes {seps : List (List Char)} {m : Mode} {escaped : Bool} {s : List Char}
    (h : Passes seps m [] escaped s) : pieces seps m escaped s = s.map .text := by
  have happ := pieces_append_of_passes h
  rwa [pieces_nil, List.append_nil, List.append_nil] at happ

theorem passes_append {seps : List (List Char)} {m : Mode} {escaped : Bool} {s t rest : List Char}
    (hs : Passes seps m (t ++ rest) escaped s) (ht : Passes seps m rest (endsEscaped escaped s) t) :
    Passes seps m rest escaped (s ++ t) := by
  induction s generalizing escaped with
  | nil => exact ht
  | cons c s ih =>
      obtain ⟨hm, hsep, hs⟩ := hs
      refine ⟨hm, ?_, ih hs ht⟩
      show separatorIn? seps m escaped (c :: ((s ++ t) ++ rest)) = none
      rw [List.append_assoc]
      exact hsep

/-- Whether a character is text in a mode, whatever stands around it. -/
def Mode.IsText (seps : List (List Char)) (m : Mode) (c : Char) : Prop :=
  (∀ escaped, m.after? escaped c = none) ∧
    (m.isOpen = true → ∀ sep ∈ seps, sep.head? ≠ some c)

theorem separatorIn?_eq_none {seps : List (List Char)} {m : Mode} {c : Char}
    (hne : ∀ sep ∈ seps, sep ≠ [])
    (h : m.isOpen = true → ∀ sep ∈ seps, sep.head? ≠ some c) (escaped : Bool) (s : List Char) :
    separatorIn? seps m escaped (c :: s) = none := by
  cases hsep : separatorIn? seps m escaped (c :: s) with
  | none => rfl
  | some sep =>
      have hmem := mem_of_separatorIn?_eq_some hsep
      have hopen : m.isOpen = true := by
        unfold separatorIn? at hsep
        split at hsep
        · next ho => exact (Bool.and_eq_true_iff.1 ho).1
        · cases hsep
      have happ := append_drop_of_separatorIn? hsep
      obtain ⟨d, more, rfl⟩ := List.exists_cons_of_ne_nil (hne sep hmem)
      have hd : d = c := by simpa using congrArg List.head? happ
      exact absurd (congrArg some hd) (h hopen _ hmem)

theorem passes_of_isText {seps : List (List Char)} {m : Mode} {escaped : Bool} {s : List Char}
    (hne : ∀ sep ∈ seps, sep ≠ []) (h : ∀ c ∈ s, m.IsText seps c) (rest : List Char) :
    Passes seps m rest escaped s := by
  induction s generalizing escaped with
  | nil => exact True.intro
  | cons c s ih =>
      have hc := h c List.mem_cons_self
      exact ⟨hc.1 escaped, separatorIn?_eq_none hne hc.2 escaped (s ++ rest),
        ih fun d hd => h d (List.mem_cons_of_mem c hd)⟩

/-! ## Tokens -/

theorem assemble_text (keep : Bool) (s : List Char) (ps : List Piece) :
    assemble keep (s.map .text ++ ps) = (s ++ (assemble keep ps).1, (assemble keep ps).2) := by
  induction s with
  | nil => rfl
  | cons c s ih => rw [List.map_cons, List.cons_append, assemble, ih]; rfl

@[simp] theorem tokens_text (keep : Bool) (s : List Char) :
    tokens keep (s.map .text) = flush s := by
  have h := assemble_text keep s []
  rw [List.append_nil] at h
  rw [tokens, h]
  simp [assemble]

/-- A separator ends what comes before it and begins what comes after it. -/
theorem tokens_append_mark (keep : Bool) (ps qs : List Piece) (sep : List Char) :
    tokens keep (ps ++ .mark sep :: qs) =
      tokens keep ps ++ (if keep then [sep] else []) ++ tokens keep qs := by
  have key : (assemble keep (ps ++ .mark sep :: qs)).1 = (assemble keep ps).1 ∧
      (assemble keep (ps ++ .mark sep :: qs)).2 =
        (assemble keep ps).2 ++ (if keep then [sep] else []) ++ tokens keep qs := by
    induction ps with
    | nil => simp [assemble, tokens]
    | cons p ps ih =>
        obtain ⟨hfirst, hmore⟩ := ih
        cases p with
        | text c => simp only [List.cons_append, assemble, hfirst, hmore, and_self]
        | hidden c => simp only [List.cons_append, assemble, hfirst, hmore, and_self]
        | mark sep' =>
            simp only [List.cons_append, assemble, hfirst, hmore, true_and,
              List.append_assoc]
  simp only [tokens, key.1, key.2, List.append_assoc]

theorem assemble_append_hidden (keep : Bool) (ps qs : List Piece) (c : Char) :
    assemble keep (ps ++ .hidden c :: qs) = assemble keep (ps ++ qs) := by
  induction ps with
  | nil => rfl
  | cons p ps ih => cases p <;> simp only [List.cons_append, assemble, ih]

/-- A hidden mark does not show. -/
theorem tokens_append_hidden (keep : Bool) (ps qs : List Piece) (c : Char) :
    tokens keep (ps ++ .hidden c :: qs) = tokens keep (ps ++ qs) := by
  rw [tokens, tokens, assemble_append_hidden]

/-! ## What the tokens hold -/

/-- The characters of a piece that get into the tokens. -/
def Piece.shown (keep : Bool) : Piece → List Char
  | text c => [c]
  | hidden _ => []
  | mark sep => if keep then sep else []

theorem Piece.shown_sublist_chars (keep : Bool) (p : Piece) :
    (p.shown keep).Sublist p.chars := by
  cases p with
  | text c => exact List.Sublist.refl [c]
  | hidden c => exact List.nil_sublist [c]
  | mark sep =>
      cases keep with
      | false => exact List.nil_sublist sep
      | true => exact List.Sublist.refl sep

theorem flatten_tokens (keep : Bool) (ps : List Piece) :
    (tokens keep ps).flatten = ps.flatMap (Piece.shown keep) := by
  have key : (assemble keep ps).1 ++ (assemble keep ps).2.flatten =
      ps.flatMap (Piece.shown keep) := by
    induction ps with
    | nil => rfl
    | cons p ps ih =>
        rw [List.flatMap_cons, ← ih]
        cases p with
        | text c => rfl
        | hidden c => rfl
        | mark sep => cases keep <;> simp [assemble, Piece.shown]
  rw [tokens, List.flatten_append, flatten_flush, key]

theorem flatMap_shown_sublist (keep : Bool) (ps : List Piece) :
    (ps.flatMap (Piece.shown keep)).Sublist (ps.flatMap Piece.chars) := by
  induction ps with
  | nil => exact List.Sublist.refl []
  | cons p ps ih =>
      rw [List.flatMap_cons, List.flatMap_cons]
      exact (p.shown_sublist_chars keep).append ih

theorem stripBrackets_sublist (s : List Char) : (stripBrackets s).Sublist s := by
  unfold stripBrackets
  split
  · exact (List.dropLast_sublist _).trans (List.tail_sublist s)
  · exact List.Sublist.refl s

/-- The tokens hold characters of the text, in its order. -/
theorem flatten_split_sublist (seps : List (List Char)) (keep : Bool) (s : List Char) :
    (split seps keep s).flatten.Sublist s := by
  have h := flatMap_shown_sublist keep (pieces (orderSeparators seps) .start false (stripBrackets s))
  rw [← flatten_tokens, flatMap_chars_pieces fun sep => ne_nil_of_mem_orderSeparators] at h
  exact h.trans (stripBrackets_sublist s)

/-- A token as long as the text is the text. -/
theorem eq_of_mem_split {seps : List (List Char)} {keep : Bool} {s t : List Char}
    (ht : t ∈ split seps keep s) (hlen : s.length ≤ t.length) : t = s :=
  ((List.sublist_flatten_of_mem ht).trans (flatten_split_sublist seps keep s)).eq_of_length_le hlen

/-! ## Nothing left out

Where the tokens are as long as the text together, every piece shows all of its
characters; and where every piece is text, the whole text passes. -/

theorem shown_eq_chars_of_length_le {keep : Bool} {ps : List Piece}
    (h : (ps.flatMap Piece.chars).length ≤ (tokens keep ps).flatten.length) :
    ∀ p ∈ ps, p.shown keep = p.chars := by
  rw [flatten_tokens] at h
  induction ps with
  | nil => intro p hp; cases hp
  | cons q ps ih =>
      have hq := q.shown_sublist_chars keep
      have hps := (flatMap_shown_sublist keep ps).length_le
      have hlen := hq.length_le
      rw [List.flatMap_cons, List.flatMap_cons, List.length_append, List.length_append] at h
      intro p hp
      rcases List.mem_cons.1 hp with rfl | hp
      · exact hq.eq_of_length_le (by omega)
      · exact ih (by omega) p hp

theorem passes_of_pieces {seps : List (List Char)} {m : Mode} {escaped : Bool} {s : List Char}
    (h : ∀ p ∈ pieces seps m escaped s, ∃ c, p = .text c) : Passes seps m [] escaped s := by
  induction s generalizing escaped with
  | nil => exact True.intro
  | cons c s ih =>
      cases hm : m.after? escaped c with
      | some m' =>
          rw [pieces_cons_hidden hm] at h
          obtain ⟨d, hd⟩ := h _ List.mem_cons_self
          cases hd
      | none =>
          cases hsep : separatorIn? seps m escaped (c :: s) with
          | some sep =>
              rw [pieces_cons_mark hm hsep] at h
              obtain ⟨d, hd⟩ := h _ List.mem_cons_self
              cases hd
          | none =>
              rw [pieces_cons_text hm hsep] at h
              refine ⟨hm, by rwa [List.append_nil], ih fun p hp => ?_⟩
              exact h p (List.mem_cons_of_mem _ hp)

/-- A text of which nothing is lost passes, unless there is a separator among its tokens. -/
theorem passes_of_length_le {seps : List (List Char)} {keep : Bool} {m : Mode} {s : List Char}
    (hne : ∀ sep ∈ seps, sep ≠ [])
    (hlen : s.length ≤ (tokens keep (pieces seps m false s)).flatten.length)
    (hmark : ∀ sep, .mark sep ∈ pieces seps m false s → keep = false) :
    Passes seps m [] false s := by
  have hshown : ∀ p ∈ pieces seps m false s, p.shown keep = p.chars :=
    shown_eq_chars_of_length_le (by rwa [flatMap_chars_pieces hne])
  refine passes_of_pieces fun p hp => ?_
  cases p with
  | text c => exact ⟨c, rfl⟩
  | hidden c => cases hshown _ hp
  | mark sep =>
      have hsep := hshown _ hp
      rw [hmark sep hp] at hsep
      exact absurd hsep.symm (hne sep (mem_of_mark_mem_pieces hp))

/-- Without backslashes, nothing shields a mark in a text that passes. -/
theorem Passes.not_mem {seps : List (List Char)} {rest s : List Char}
    (h : Passes seps .start rest false s) (hs : '\\' ∉ s) :
    ∀ c ∈ s, c ≠ '"' ∧ c ≠ '(' ∧ [c] ∉ seps := by
  induction s with
  | nil => intro c hc; cases hc
  | cons d s ih =>
      obtain ⟨hm, hsep, hpasses⟩ := h
      have hd : (d == '\\') = false :=
        beq_eq_false_iff_ne.2 fun e => hs (e ▸ List.mem_cons_self)
      rw [hd] at hpasses
      intro c hc
      rcases List.mem_cons.1 hc with rfl | hc
      · refine ⟨?_, ?_, ?_⟩
        · rintro rfl
          exact absurd hm (by decide)
        · rintro rfl
          exact absurd hm (by decide)
        · intro hmem
          have hnone : separatorAt? seps (c :: (s ++ rest)) = none := hsep
          have hc := List.find?_eq_none.1 hnone [c] hmem
          exact hc (List.isPrefixOf_iff_prefix.2 ⟨s ++ rest, rfl⟩)
      · exact ih hpasses (fun hmem => hs (List.mem_cons_of_mem d hmem)) c hc

end CardSearch.Query
