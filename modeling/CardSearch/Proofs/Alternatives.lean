import CardSearch.Proofs.Directives
import CardSearch.Proofs.QueryText
import CardSearch.Proofs.Readings
import CardSearch.Text.Occurrence

/-!
# Alternatives are read one by one

Branches with ` OR ` between them are found again by the splitter: the scan
takes the leftmost mark, and a mark can only start where two branches were
joined. That a mark might reach across a join is the one thing to rule out.
Lined up with itself one, two or three places apart, the mark agrees with itself
at one place apart only, where a blank meets a blank, and then the branch before
it would end in ` OR` (`not_orMark_starts`).

Each branch is then read as a query of its own. The first error counts, the last
order and the last selection win, and the conditions are alternatives, except
for branches that only set an order or a selection. `isDirective_eq` says that
the reader tells those branches by their empty condition rightly: a branch has
at least one term.
-/

namespace CardSearch.Query

open Text (isBlank)
open Time (Instant)

/-- A text that can stand between marks: not empty, trimmed, without characters
that quote, open a group or escape, and without a mark, also together with the
blanks around it. -/
structure IsBranch (b : List Char) : Prop where
  ne_nil : b ≠ []
  trimmed : IsTrimmed b
  plain : ∀ c ∈ b, c ≠ '"' ∧ c ≠ '(' ∧ c ≠ '\\'
  unmarked : ¬ orMark <:+: ' ' :: b ++ [' ']

instance (b : List Char) : Decidable (IsBranch b) :=
  decidable_of_iff (b ≠ [] ∧ IsTrimmed b ∧ b.all (fun c => c ≠ '"' ∧ c ≠ '(' ∧ c ≠ '\\') = true ∧
      Text.occursIn orMark (' ' :: b ++ [' ']) = false)
    ⟨fun h => ⟨h.1, h.2.1, by simpa using h.2.2.1, fun hmark => by
        rw [Text.occursIn_eq_true_iff.2 hmark] at h
        cases h.2.2.2⟩,
      fun h => ⟨h.ne_nil, h.trimmed, by simpa using h.plain, by
        have hmark := h.unmarked
        rwa [← Text.occursIn_eq_true_iff, Bool.not_eq_true] at hmark⟩⟩

/-- Whether some term of a text asks something of single cards. -/
def asksOfCards (now : Instant) (s : List Char) : Bool :=
  (split termMarks false s).any fun t =>
    match (readTerm now t).result with
    | .ok term => term.condition?.isSome
    | .error _ => false

/-- The disjunction of conditions, or what every card meets if there are none. -/
def oneOf : List Condition → Condition
  | [] => .all []
  | c :: cs => .any (c :: cs)

/-! ## Finding the joins -/

theorem separatorAt?_orMark_eq_none {s : List Char} (h : ¬ orMark <+: s) :
    separatorAt? [orMark] s = none := by
  unfold separatorAt?
  rw [List.find?_eq_none]
  intro sep hsep
  rw [List.mem_singleton.1 hsep]
  intro hp
  exact h (List.isPrefixOf_iff_prefix.1 hp)

theorem separatorIn?_orMark (rest : List Char) :
    separatorIn? [orMark] .start false (orMark ++ rest) = some orMark := by
  have hp : orMark.isPrefixOf (orMark ++ rest) = true :=
    List.isPrefixOf_iff_prefix.2 (List.prefix_append _ _)
  show List.find? (fun sep => sep.isPrefixOf (orMark ++ rest)) [orMark] = some orMark
  exact List.find?_cons_of_pos hp

/-- No mark starts in the last part of a branch, whether or not a mark follows. -/
theorem not_orMark_starts {b v rest : List Char} (hb : IsBranch b) (hv : v <:+ b)
    (hne : v ≠ []) (hrest : rest = [] ∨ orMark <+: rest) : ¬ orMark <+: v ++ rest := by
  have hinfix : ∀ x, orMark <+: v ++ x → x <+: [' '] → False := by
    intro x hx hblank
    apply hb.unmarked
    have h₁ : orMark <:+: v ++ [' '] :=
      (hx.trans ((List.prefix_append_right_inj v).2 hblank)).isInfix
    have h₂ : v ++ [' '] <:+ b ++ [' '] := (List.suffix_append_inj_of_length_eq rfl).2 ⟨hv, rfl⟩
    exact h₁.trans (h₂.isInfix.trans (List.suffix_cons ' ' _).isInfix)
  intro hp
  rcases hrest with rfl | ⟨more, rfl⟩
  · exact hinfix [] hp (List.nil_prefix)
  · match v, hne with
    | [c], _ => simp [orMark, List.cons_prefix_cons] at hp
    | [c, d], _ => simp [orMark, List.cons_prefix_cons] at hp
    | [c, d, e], _ =>
        -- One place apart: the branch ends in the first three characters of a mark.
        simp only [orMark, List.cons_append, List.nil_append, List.cons_prefix_cons] at hp
        obtain ⟨rfl, rfl, rfl, -, -⟩ := hp
        exact hinfix [' '] (List.prefix_refl _) (List.prefix_refl _)
    | c :: d :: e :: f :: v, _ =>
        simp only [orMark, List.cons_append, List.cons_prefix_cons] at hp
        obtain ⟨rfl, rfl, rfl, rfl, -⟩ := hp
        exact hinfix [] (List.prefix_append orMark _) List.nil_prefix

theorem passes_of_suffix {b v rest : List Char} (hb : IsBranch b) (hv : v <:+ b)
    (hrest : rest = [] ∨ orMark <+: rest) : Passes [orMark] .start rest false v := by
  induction v with
  | nil => exact True.intro
  | cons c v ih =>
      obtain ⟨hquote, hopen, hback⟩ := hb.plain c (hv.subset List.mem_cons_self)
      have hnone := separatorAt?_orMark_eq_none
        (not_orMark_starts hb hv (List.cons_ne_nil c v) hrest)
      refine ⟨?_, hnone, ?_⟩
      · simp [Mode.after?, Mode.start, Mode.isOpen, hquote, hopen]
      · rw [beq_eq_false_iff_ne.2 hback]
        exact ih ((List.suffix_cons c v).trans hv)

theorem endsEscaped_branch {b : List Char} (hb : IsBranch b) : endsEscaped false b = false := by
  refine endsEscaped_eq_false hb.ne_nil fun hlast => ?_
  exact (hb.plain '\\' (List.mem_of_getLast? hlast)).2.2 rfl

theorem ne_orMark {b : List Char} (hb : IsBranch b) : b ≠ orMark := by
  rintro rfl
  exact absurd (hb.trimmed.first ' ' rfl) (by decide)

/-- The tokens of branches with marks between them are the branches and the marks. -/
theorem tokens_intercalate {bs : List (List Char)} (hb : ∀ b ∈ bs, IsBranch b) (hne : bs ≠ []) :
    tokens true (pieces [orMark] .start false (orMark.intercalate bs)) =
      bs.intersperse orMark := by
  induction bs with
  | nil => exact absurd rfl hne
  | cons b bs ih =>
      have hbranch := hb b List.mem_cons_self
      have hflush : flush b = [b] := if_neg hbranch.ne_nil
      match bs with
      | [] =>
          rw [List.intercalate_singleton,
            pieces_of_passes (passes_of_suffix hbranch List.suffix_rfl (Or.inl rfl)),
            tokens_text, hflush]
          rfl
      | b' :: bs =>
          have hpass := passes_of_suffix hbranch List.suffix_rfl
            (Or.inr (List.prefix_append orMark (orMark.intercalate (b' :: bs))))
          have hmark : pieces [orMark] .start false (orMark ++ orMark.intercalate (b' :: bs)) =
              .mark orMark :: pieces [orMark] .start false (orMark.intercalate (b' :: bs)) :=
            pieces_cons_mark rfl (separatorIn?_orMark _)
          rw [List.intercalate_cons_cons, List.append_assoc, pieces_append_of_passes hpass,
            endsEscaped_branch hbranch, hmark, tokens_append_mark, tokens_text, hflush,
            ih (fun c hc => hb c (List.mem_cons_of_mem b hc)) (List.cons_ne_nil b' bs)]
          rfl

theorem filter_intersperse {bs : List (List Char)} (hb : ∀ b ∈ bs, b ≠ orMark) :
    (bs.intersperse orMark).filter (· ≠ orMark) = bs := by
  induction bs with
  | nil => rfl
  | cons b bs ih =>
      have hkeep := hb b List.mem_cons_self
      match bs with
      | [] => simp [hkeep]
      | b' :: bs =>
          have hrest := ih fun c hc => hb c (List.mem_cons_of_mem b hc)
          rw [List.intersperse_cons_cons]
          simpa [hkeep] using hrest

theorem intercalate_ne_nil {bs : List (List Char)} (hb : ∀ b ∈ bs, IsBranch b) (hne : bs ≠ []) :
    orMark.intercalate bs ≠ [] := by
  obtain ⟨b, bs, rfl⟩ := List.exists_cons_of_ne_nil hne
  have hbranch := hb b List.mem_cons_self
  cases bs with
  | nil =>
      rw [List.intercalate_singleton]
      exact hbranch.ne_nil
  | cons b' bs =>
      rw [List.intercalate_cons_cons]
      simp [hbranch.ne_nil]

theorem isTrimmed_intercalate {bs : List (List Char)} (hb : ∀ b ∈ bs, IsBranch b)
    (hne : bs ≠ []) : IsTrimmed (orMark.intercalate bs) := by
  induction bs with
  | nil => exact absurd rfl hne
  | cons b bs ih =>
      have hbranch := hb b List.mem_cons_self
      cases bs with
      | nil =>
          rw [List.intercalate_singleton]
          exact hbranch.trimmed
      | cons b' bs =>
          have hrest : ∀ c ∈ b' :: bs, IsBranch c := fun c hc => hb c (List.mem_cons_of_mem b hc)
          have hne' := List.cons_ne_nil b' bs
          rw [List.intercalate_cons_cons]
          exact hbranch.trimmed.join (ih hrest hne') hbranch.ne_nil
            (intercalate_ne_nil hrest hne') orMark

theorem stripBrackets_intercalate {bs : List (List Char)} (hb : ∀ b ∈ bs, IsBranch b)
    (hne : bs ≠ []) : stripBrackets (orMark.intercalate bs) = orMark.intercalate bs := by
  refine stripBrackets_eq_self ?_
  obtain ⟨b, bs, rfl⟩ := List.exists_cons_of_ne_nil hne
  have hbranch := hb b List.mem_cons_self
  obtain ⟨c, b, rfl⟩ := List.exists_cons_of_ne_nil hbranch.ne_nil
  have hc : c ≠ '(' := (hbranch.plain c List.mem_cons_self).2.1
  cases bs with
  | nil =>
      rw [List.intercalate_singleton]
      exact fun h => hc (Option.some.inj h)
  | cons b' bs =>
      rw [List.intercalate_cons_cons]
      exact fun h => hc (Option.some.inj h)

theorem alternatives_intercalate {bs : List (List Char)} (hb : ∀ b ∈ bs, IsBranch b)
    (hne : bs ≠ []) : alternatives (orMark.intercalate bs) = bs.intersperse orMark := by
  have hstrip := stripBrackets_intercalate hb hne
  rw [alternatives, (isTrimmed_intercalate hb hne).body, hstrip, split_eq hstrip,
    orderSeparators_orMark, tokens_intercalate hb hne]

theorem parse_intercalate {bs : List (List Char)} (hb : ∀ b ∈ bs, IsBranch b)
    (hlen : 2 ≤ bs.length) (now : Instant) :
    parse now (orMark.intercalate bs) = (Reading.sequence (bs.map (parse now))).map ofBranches := by
  match bs, hlen with
  | b :: b' :: bs, _ =>
      have halts := alternatives_intercalate hb (List.cons_ne_nil b (b' :: bs))
      have hmark : orMark ∈ alternatives (orMark.intercalate (b :: b' :: bs)) := by
        rw [halts, List.intersperse_cons_cons]
        exact List.mem_cons_of_mem b List.mem_cons_self
      rw [parse_of_mem hmark, halts, filter_intersperse fun c hc => ne_orMark (hb c hc)]

/-! ## Branches that ask nothing of cards -/

theorem IsBranch.isTermList {b : List Char} (hb : IsBranch b) : IsTermList b := by
  have hone : ∀ c ∈ [b], IsBranch c := by simpa using hb
  have hne := List.cons_ne_nil b []
  have hstrip := stripBrackets_intercalate hone hne
  have htokens := tokens_intercalate hone hne
  rw [List.intercalate_singleton] at hstrip htokens
  refine ⟨hstrip, ?_⟩
  rw [split_eq hstrip, orderSeparators_orMark, htokens, List.intersperse_singleton,
    List.mem_singleton]
  exact (ne_orMark hb).symm

theorem split_termMarks_ne_nil {b : List Char} (hb : IsBranch b) : split termMarks false b ≠ [] := by
  obtain ⟨c, rest, rfl⟩ := List.exists_cons_of_ne_nil hb.ne_nil
  obtain ⟨hquote, hopen, -⟩ := hb.plain c List.mem_cons_self
  have hblank : isBlank c = false := hb.trimmed.first c rfl
  have hmode : Mode.start.after? false c = none := by
    simp [Mode.after?, Mode.start, Mode.isOpen, hquote, hopen]
  have hsep : separatorIn? termMarks .start false (c :: rest) = none := by
    refine separatorIn?_eq_none (by decide) (fun _ sep hsep hhead => ?_) false rest
    have hmarks : ∀ sep ∈ termMarks, ∀ d ∈ sep.head?, isBlank d = true := by
      simp [termMarks, isBlank]
    rw [hmarks sep hsep c hhead] at hblank
    cases hblank
  rw [split_eq hb.isTermList.unwrapped, orderSeparators_termMarks,
    pieces_cons_text hmode hsep, tokens, assemble]
  simp [flush]

theorem asksOfCards_eq {now : Instant} {s : List Char} {terms : List SignedTerm}
    (h : (Reading.sequence ((split termMarks false s).map (readTerm now))).result = .ok terms) :
    asksOfCards now s = terms.any (·.condition?.isSome) := by
  have hall := Reading.forall₂_of_result_sequence h
  unfold asksOfCards
  generalize split termMarks false s = texts at hall
  clear h
  induction hall with
  | nil => rfl
  | cons hterm _ ih => rw [List.any_cons, List.any_cons, ih, hterm]

theorem isDirective_eq {b : List Char} (hb : IsBranch b) {now : Instant} {q : Query}
    (hq : (parse now b).result = .ok q) : q.isDirective = !asksOfCards now b := by
  rw [parse_of_isTermList hb.trimmed hb.isTermList, Reading.result_map_eq_ok_iff] at hq
  obtain ⟨terms, hterms, rfl⟩ := hq
  have hne : terms ≠ [] := by
    rintro rfl
    have hall := Reading.forall₂_of_result_sequence hterms
    exact split_termMarks_ne_nil hb (List.forall₂_nil_right_iff.1 hall)
  rw [isDirective_ofTerms hne, asksOfCards_eq hterms]

theorem condition_ofBranches {bs : List (List Char)} (hb : ∀ b ∈ bs, IsBranch b) {now : Instant}
    {f : List Char → Query} (hf : ∀ b ∈ bs, (parse now b).result = .ok (f b)) :
    (ofBranches (bs.map f)).condition =
      oneOf ((bs.filter (asksOfCards now)).map fun b => (f b).condition) := by
  have hkept : (bs.map f).filter (!·.isDirective) = (bs.filter (asksOfCards now)).map f := by
    rw [List.filter_map]
    congr 1
    refine List.filter_congr fun b hmem => ?_
    show (!(f b).isDirective) = asksOfCards now b
    rw [isDirective_eq (hb b hmem) (hf b hmem), Bool.not_not]
  show anyBranch (bs.map f) = _
  unfold anyBranch
  rw [hkept]
  cases bs.filter (asksOfCards now) with
  | nil => rfl
  | cons b bs =>
      show Condition.any (((b :: bs).map f).map (·.condition)) = _
      rw [List.map_map]
      rfl

/-- Branches with marks between them: the first error counts, the last branch
with an order and the last with a selection set them, and the conditions are
alternatives. -/
theorem marks_separate_branches {bs : List (List Char)} (hb : ∀ b ∈ bs, IsBranch b)
    (hlen : 2 ≤ bs.length) (now : Instant) :
    ((∃ e, (parse now (orMark.intercalate bs)).result = .error e) ↔
      ∃ b ∈ bs, ∃ e, (parse now b).result = .error e) ∧
    (∀ before b after e, bs = before ++ b :: after →
      (∀ a ∈ before, ∃ q, (parse now a).result = .ok q) →
      (parse now b).result = .error e →
      (parse now (orMark.intercalate bs)).result = .error e) ∧
    ∀ f : List Char → Query, (∀ b ∈ bs, (parse now b).result = .ok (f b)) →
      ∃ r, (parse now (orMark.intercalate bs)).result = .ok r ∧
        r.condition = oneOf ((bs.filter (asksOfCards now)).map fun b => (f b).condition) ∧
        r.sortBy = (lastWith? (fun b => (f b).sortBy.isSome) bs).bind (fun b => (f b).sortBy) ∧
        r.descending = (lastWith? (fun b => (f b).sortBy.isSome) bs).any
          (fun b => (f b).descending) ∧
        r.selection = (lastWith? (fun b => (f b).selection.isSome) bs).bind
          (fun b => (f b).selection) := by
  rw [parse_intercalate hb hlen]
  refine ⟨?_, ?_, ?_⟩
  · simp only [Reading.result_map_eq_error_iff]
    exact Reading.result_sequence_fails_iff
  · rintro before b after e rfl hbefore hbad
    rw [Reading.result_map_eq_error_iff]
    exact Reading.result_sequence_of_error hbefore hbad
  · intro f hf
    refine ⟨ofBranches (bs.map f), ?_, condition_ofBranches hb hf, ?_, ?_, ?_⟩
    · rw [Reading.result_map, Reading.result_sequence_of_ok hf]
      rfl
    · show (lastDirectives (bs.map f)).sortBy = _
      rw [sortBy_lastDirectives, orderSetter?, lastWith?_map, Option.bind_map]
      rfl
    · show (lastDirectives (bs.map f)).descending = _
      rw [descending_lastDirectives, orderSetter?, lastWith?_map, Option.any_map]
      rfl
    · show (lastDirectives (bs.map f)).selection = _
      rw [selection_lastDirectives, selectionSetter?, lastWith?_map, Option.bind_map]
      rfl

theorem marks_separate_filter_and_order :
    (∀ b ∈ ["x=a".toList, "sortBy:f".toList], IsBranch b) ∧
    2 ≤ ["x=a".toList, "sortBy:f".toList].length ∧
    ∃ r, (parse (.ofSeconds 0) (orMark.intercalate ["x=a".toList, "sortBy:f".toList])).result =
        .ok r ∧
      r.condition = .any [.all [.field "x" .equals (.text "a")]] ∧ r.sortBy = some "f" := by
  have hb : ∀ b ∈ ["x=a".toList, "sortBy:f".toList], IsBranch b := by
    intro b hb
    rcases List.mem_pair.1 hb with rfl | rfl
    · decide
    · decide
  have hx : (parse (.ofSeconds 0) "x=a".toList).result =
      .ok { condition := .all [.field "x" .equals (.text "a")] } := by cbv
  have hsort : (parse (.ofSeconds 0) "sortBy:f".toList).result =
      .ok { condition := .all [], sortBy := some "f" } := by cbv
  have asksX : asksOfCards (.ofSeconds 0) "x=a".toList = true := by cbv
  have asksSort : asksOfCards (.ofSeconds 0) "sortBy:f".toList = false := by cbv
  obtain ⟨r, hr, hcond, hby, -⟩ := (marks_separate_branches hb (by decide) (.ofSeconds 0)).2.2
    (fun b => if b = "x=a".toList then { condition := .all [.field "x" .equals (.text "a")] }
      else { condition := .all [], sortBy := some "f" })
    (by
      intro b hb
      rcases List.mem_pair.1 hb with rfl | rfl
      · exact hx
      · exact hsort)
  rw [List.filter_cons_of_pos asksX, List.filter_cons_of_neg (by rw [asksSort]; decide)] at hcond
  exact ⟨hb, by decide, r, hr, hcond, hby⟩

end CardSearch.Query
