import CardSearch.Proofs.Alternatives
import CardSearch.Proofs.FieldTerms

/-!
# How far quotation marks protect a value

A query text is split at alternatives, then at blanks, then at signs, and every
pass drops the quotation marks it meets. The first pass that cuts hands on bare
text. A quoted value alone is therefore safe from the passes for alternatives
and for blanks, which do not cut it, but not from the signs; and next to another
alternative it is not safe from blanks either, nor from the trimming of the
alternative. `quoted_value_iff` says which values come through.
-/

namespace CardSearch.Query

open Text (isBlank trim)
open Time (Instant)

/-- A field, a colon and a value between quotation marks. -/
def quotedTerm (f v : List Char) : List Char := f ++ ':' :: '"' :: (v ++ ['"'])

/-! ## A quoted value as one token -/

theorem flush_field (f v : List Char) : flush (f ++ ':' :: v) = [f ++ ':' :: v] := if_neg (by simp)

theorem isTrimmed_quotedTerm {f : List Char} (hf : IsPlainField f) (v : List Char) :
    IsTrimmed (quotedTerm f v) where
  first := hf.isName.head_unblank _
  last := by
    intro d hd
    have hcut : quotedTerm f v = (f ++ ':' :: '"' :: v) ++ ['"'] := by simp [quotedTerm]
    rw [hcut, List.getLast?_concat] at hd
    obtain rfl := Option.some.inj hd
    decide

section Quoted

variable {f v : List Char} (hf : IsPlainField f) (hv : IsQuotable v)

include hf hv

theorem tokens_quotedTerm {seps : List (List Char)} (hne : ∀ sep ∈ seps, sep ≠ [])
    (hheads : ∀ sep ∈ seps, ∀ c ∈ sep.head?, [c] ∈ termMarks) (keep : Bool)
    (rest : List Char) :
    tokens keep (pieces seps .start false (quotedTerm f v ++ rest)) =
      tokens keep ((f ++ ':' :: v).map .text ++ pieces seps .start false rest) := by
  have hcut : quotedTerm f v ++ rest = (f ++ TermOp.colon.sign) ++ '"' :: (v ++ '"' :: rest) := by
    simp [quotedTerm, TermOp.sign]
  have hfield : f ++ ':' :: v = (f ++ TermOp.colon.sign) ++ v := by simp [TermOp.sign]
  have hquoted : ∀ c ∈ v, Mode.IsText seps ⟨true, false⟩ c := by
    intro c hc
    have hquote : c ≠ '"' := fun e => hv.unquoted (e ▸ hc)
    refine ⟨fun escaped => ?_, fun hopen => by cases hopen⟩
    simp [Mode.after?, Mode.isOpen, hquote]
  have hvalueEnd : endsEscaped false v = false :=
    endsEscaped_eq_false hv.ne_nil fun hlast => hv.unescaped (List.mem_of_getLast? hlast)
  have hopening : Mode.start.after? false '"' = some ⟨true, false⟩ := rfl
  have hclosing : Mode.after? ⟨true, false⟩ false '"' = some .start := rfl
  rw [hcut, pieces_append_of_passes (hf.isName.passes_sign hne hheads .colon _),
    hf.isName.endsEscaped_sign, pieces_cons_hidden hopening, tokens_append_hidden,
    pieces_append_of_passes (passes_of_isText hne hquoted _), hvalueEnd,
    pieces_cons_hidden hclosing, ← List.append_assoc, tokens_append_hidden, ← List.map_append,
    ← hfield]

theorem split_quotedTerm {seps : List (List Char)}
    (hheads : ∀ sep ∈ orderSeparators seps, ∀ c ∈ sep.head?, [c] ∈ termMarks)
    (keep : Bool) : split seps keep (quotedTerm f v) = [f ++ ':' :: v] := by
  have htokens := tokens_quotedTerm hf hv (fun _ => ne_nil_of_mem_orderSeparators) hheads keep []
  rw [List.append_nil, pieces_nil, List.append_nil, tokens_text, flush_field] at htokens
  rw [split_eq (s := quotedTerm f v) (hf.isName.stripBrackets_append _), htokens]

theorem parse_quotedTerm (now : Instant) :
    parse now (quotedTerm f v) =
      (Reading.sequence [readTerm now (f ++ ':' :: v)]).map ofTerms := by
  have hlist : IsTermList (quotedTerm f v) := by
    refine ⟨hf.isName.stripBrackets_append _, ?_⟩
    rw [split_quotedTerm hf hv head_orMark, List.mem_singleton]
    intro e
    exact hf.isName.head_ne (':' :: v) (by decide) (congrArg List.head? e.symm)
  rw [parse_of_isTermList (isTrimmed_quotedTerm hf v) hlist,
    split_quotedTerm hf hv head_termMarks]
  rfl

end Quoted

/-! ## One term -/

/-- A list of one term finds the value exactly if the term does. -/
theorem ofTerm_eq_iff {f v : List Char} (hf : IsPlainField f) (hv : IsQuotable v) (now : Instant) :
    ((Reading.sequence [readTerm now (f ++ ':' :: v)]).map ofTerms).result =
        .ok { condition := .all [literalTest f v] } ↔ KeptBySigns v := by
  rw [← readTerm_eq_literalTest_iff hf hv now, Reading.result_map_eq_ok_iff]
  constructor
  · rintro ⟨terms, hterms, hquery⟩
    cases hread : (readTerm now (f ++ ':' :: v)).result with
    | error e =>
        rw [Reading.sequence_cons_error hread] at hterms
        cases hterms
    | ok t =>
        rw [Reading.result_sequence_cons_ok hread] at hterms
        obtain rfl : [t] = terms := Except.ok.inj hterms
        have hparts : [t].filterMap (·.condition?) = [literalTest f v] :=
          Condition.all.inj (congrArg Query.condition hquery)
        have hmem : literalTest f v ∈ [t].filterMap (·.condition?) := by
          rw [hparts]
          exact List.mem_cons_self
        obtain ⟨t', ht', hcond⟩ := List.mem_filterMap.1 hmem
        rw [List.mem_singleton.1 ht'] at hcond
        rw [condition?_eq_literalTest_iff.1 hcond]
  · intro hread
    refine ⟨[⟨false, .filter (literalTest f v)⟩], ?_, rfl⟩
    rw [Reading.result_sequence_cons_ok hread]
    rfl

/-! ## A value without its quotation marks -/

theorem mem_split_of_parse_bare {now : Instant} {f v : List Char} {p : Query}
    (h : (parse now (f ++ ':' :: v)).result = .ok p)
    (hcond : p.condition = .all [literalTest f v]) :
    ∃ t ∈ split termMarks false (body (f ++ ':' :: v)),
      (readTerm now t).result = .ok ⟨false, .filter (literalTest f v)⟩ := by
  by_cases hmark : orMark ∈ alternatives (f ++ ':' :: v)
  · rw [parse_of_mem hmark, Reading.result_map_eq_ok_iff] at h
    obtain ⟨qs, -, rfl⟩ := h
    have hany : anyBranch qs = .all [literalTest f v] := hcond
    unfold anyBranch at hany
    split at hany
    · cases hany
    · cases hany
  · rw [parse_of_not_mem hmark, Reading.result_map_eq_ok_iff] at h
    obtain ⟨terms, hterms, rfl⟩ := h
    have hparts : terms.filterMap (·.condition?) = [literalTest f v] := Condition.all.inj hcond
    have hmem : literalTest f v ∈ terms.filterMap (·.condition?) := by
      rw [hparts]
      exact List.mem_cons_self
    obtain ⟨t, ht, hcond⟩ := List.mem_filterMap.1 hmem
    rw [condition?_eq_literalTest_iff.1 hcond] at ht
    exact Reading.exists_of_mem_result_sequence hterms ht

section Bare

variable {f v : List Char} (hf : IsPlainField f) (hv : IsQuotable v)

include hf hv

/-- A bare value that the signs keep, without blanks that separate or are trimmed. -/
theorem parse_bare (hkept : KeptBySigns v) (hmarks : ∀ c ∈ v, [c] ∉ termMarks)
    (hlast : ∀ c ∈ v.getLast?, isBlank c = false) (now : Instant) :
    (parse now (f ++ ':' :: v)).result = .ok { condition := .all [literalTest f v] } := by
  have hplain : ∀ c ∈ v, c ≠ '"' ∧ c ≠ '(' ∧ [c] ∉ termMarks := by
    intro c hc
    refine ⟨fun e => hv.unquoted (e ▸ hc), ?_, hmarks c hc⟩
    rcases hkept with hsign | hplain
    · have hsigns : ∀ sign ∈ TermOp.signs, '(' ∉ sign := by decide
      exact fun e => hsigns v hsign (e ▸ hc)
    · exact (hplain c hc).1
  rw [hf.isName.parse_colon hv.ne_nil hplain hlast]
  exact (ofTerm_eq_iff hf hv now).2 hkept

theorem kept_of_parse_bare {now : Instant} {p : Query}
    (h : (parse now (f ++ ':' :: v)).result = .ok p)
    (hcond : p.condition = .all [literalTest f v]) :
    KeptBySigns v ∧ (∀ c ∈ v, [c] ∉ termMarks) ∧ ∀ c ∈ v.getLast?, isBlank c = false := by
  obtain ⟨t, ht, hread⟩ := mem_split_of_parse_bare h hcond
  -- The term is as long as the text, so nothing was trimmed, cut or hidden.
  have hlen := length_le_of_readTerm hf hread
  have hpart := (List.sublist_flatten_of_mem ht).trans (flatten_split_sublist _ _ _)
  have hbody : body (f ++ ':' :: v) = f ++ ':' :: v :=
    (body_sublist _).eq_of_length_le (hlen.trans hpart.length_le)
  rw [hbody] at ht
  obtain rfl := eq_of_mem_split ht hlen
  have hback : '\\' ∉ f ++ ':' :: v := by
    intro hmem
    rcases List.mem_append.1 hmem with hmem | hmem
    · exact Text.ne_of_test (hf.letters _ hmem) (by decide) rfl
    · rcases List.mem_cons.1 hmem with heq | hmem
      · cases heq
      · exact hv.unescaped hmem
  refine ⟨(readTerm_eq_literalTest_iff hf hv now).1 hread, ?_, ?_⟩
  · have hsplit := (List.sublist_flatten_of_mem ht).length_le
    rw [split_eq (hf.isName.stripBrackets_append _)] at hsplit
    have hpasses := passes_of_length_le (fun _ => ne_nil_of_mem_orderSeparators) hsplit
      (fun _ _ => rfl)
    intro c hc hmem
    refine (hpasses.not_mem hback c ?_).2.2 (by rwa [orderSeparators_termMarks])
    exact List.mem_append_right f (List.mem_cons_of_mem ':' hc)
  · have htrim : trim (f ++ ':' :: v) = f ++ ':' :: v := by
      refine (trim_sublist _).eq_of_length_le ?_
      have hstrip := length_stripBrackets_le (trim (f ++ ':' :: v))
      rw [body] at hbody
      rwa [hbody] at hstrip
    rw [← getLast?_field hv.ne_nil f, ← htrim]
    exact isBlank_last_trim

end Bare

/-! ## A value next to another alternative -/

section Alternative

variable {f v : List Char} (hf : IsPlainField f) (hv : IsQuotable v)

include hf hv

theorem alternatives_quotedTerm :
    alternatives (quotedTerm f v ++ orMark ++ "tag:x".toList) =
      [f ++ ':' :: v, orMark, "tag:x".toList] := by
  have hstrip : stripBrackets (quotedTerm f v ++ orMark ++ "tag:x".toList) =
      quotedTerm f v ++ orMark ++ "tag:x".toList := by
    rw [quotedTerm, List.append_assoc, List.append_assoc]
    exact hf.isName.stripBrackets_append _
  have htrimmed : IsTrimmed (quotedTerm f v ++ orMark ++ "tag:x".toList) :=
    (isTrimmed_quotedTerm hf v).join (by decide) (by simp [quotedTerm]) (by decide) orMark
  have hmark : pieces [orMark] .start false (orMark ++ "tag:x".toList) =
      .mark orMark :: pieces [orMark] .start false "tag:x".toList :=
    pieces_cons_mark rfl (separatorIn?_orMark _)
  have htag : tokens true (pieces [orMark] .start false "tag:x".toList) = ["tag:x".toList] := by
    cbv
  rw [alternatives, htrimmed.body, hstrip, split_eq hstrip, orderSeparators_orMark,
    List.append_assoc, tokens_quotedTerm hf hv (by decide) (by simp [orMark, termMarks]),
    hmark, tokens_append_mark, tokens_text, flush_field, htag]
  rfl

theorem parse_quotedTerm_or_tag (now : Instant) :
    parse now (quotedTerm f v ++ orMark ++ "tag:x".toList) =
      (Reading.sequence [parse now (f ++ ':' :: v), parse now "tag:x".toList]).map ofBranches := by
  have halts := alternatives_quotedTerm hf hv
  have hne : f ++ ':' :: v ≠ orMark := fun e =>
    hf.isName.head_ne (':' :: v) (by decide) (congrArg List.head? e)
  have hmark : orMark ∈ alternatives (quotedTerm f v ++ orMark ++ "tag:x".toList) := by
    rw [halts]
    simp
  have hfilter : [f ++ ':' :: v, orMark, "tag:x".toList].filter (· ≠ orMark) =
      [f ++ ':' :: v, "tag:x".toList] := by
    have htag : ['t', 'a', 'g', ':', 'x'] ≠ orMark := by decide
    simp [hne, htag]
  rw [parse_of_mem hmark, halts, hfilter]
  rfl

end Alternative

theorem parse_tag (now : Instant) :
    (parse now "tag:x".toList).result =
      .ok { condition := .all [literalTest "tag".toList ['x']] } := by
  have hf : IsPlainField "tag".toList := by decide
  have hv : IsQuotable ['x'] := ⟨by decide, by decide, by decide, by decide⟩
  have hkept : KeptBySigns ['x'] := Or.inr (by simp [TermOp.signs, TermOp.all, TermOp.sign])
  exact parse_bare hf hv hkept (by simp [termMarks]) (by simp [isBlank]) now

/-- Two alternatives, the second of which asks something of cards. -/
theorem condition_ofBranches_pair_iff {p q : Query} {cs : List Condition} {c : Condition}
    (hq : q.isDirective = false) :
    (ofBranches [p, q]).condition = .any [.all (c :: cs), q.condition] ↔
      p.condition = .all (c :: cs) := by
  show anyBranch [p, q] = _ ↔ _
  unfold anyBranch
  cases hp : p.isDirective with
  | true =>
      have hempty : p.condition ≠ .all (c :: cs) := by
        intro e
        rw [Query.isDirective, e] at hp
        cases hp
      have hfilter : [p, q].filter (!·.isDirective) = [q] := by simp [hp, hq]
      rw [hfilter]
      refine iff_of_false (fun e => ?_) hempty
      have hlen := congrArg List.length (Condition.any.inj e)
      cases Nat.succ.inj hlen
  | false =>
      have hfilter : [p, q].filter (!·.isDirective) = [p, q] := by simp [hp, hq]
      rw [hfilter]
      show Condition.any [p.condition, q.condition] = _ ↔ _
      constructor
      · intro e
        exact (List.cons.inj (Condition.any.inj e)).1
      · intro e
        rw [e]

/-- Which values between quotation marks come through. Alone, a value does if it
is a sign or holds no sign and no opening bracket. Next to another alternative it
must also hold no blank between terms and not end in a blank. -/
theorem quoted_value_iff {f v : List Char} (hf : IsPlainField f) (hv : IsQuotable v)
    (now : Instant) :
    ((parse now (quotedTerm f v)).result = .ok { condition := .all [literalTest f v] } ↔
      KeptBySigns v) ∧
    ∃ q, (parse now "tag:x".toList).result = .ok q ∧
      ((parse now (quotedTerm f v ++ orMark ++ "tag:x".toList)).result.map (·.condition) =
          .ok (.any [.all [literalTest f v], q.condition]) ↔
        KeptBySigns v ∧ (∀ c ∈ v, [c] ∉ termMarks) ∧ ∀ c ∈ v.getLast?, isBlank c = false) := by
  refine ⟨?_, _, parse_tag now, ?_⟩
  · rw [parse_quotedTerm hf hv]
    exact ofTerm_eq_iff hf hv now
  · rw [parse_quotedTerm_or_tag hf hv]
    constructor
    · intro h
      cases hp : (parse now (f ++ ':' :: v)).result with
      | error e =>
          rw [Reading.result_map, Reading.sequence_cons_error hp] at h
          cases h
      | ok p =>
          rw [Reading.result_map, Reading.result_sequence_cons_ok hp,
            Reading.result_sequence_cons_ok (parse_tag now)] at h
          have hcond := (condition_ofBranches_pair_iff rfl).1 (Except.ok.inj h)
          exact kept_of_parse_bare hf hv hp hcond
    · rintro ⟨hkept, hmarks, hlast⟩
      rw [Reading.result_map,
        Reading.result_sequence_cons_ok (parse_bare hf hv hkept hmarks hlast now),
        Reading.result_sequence_cons_ok (parse_tag now)]
      rfl

theorem quoted_blank_kept_alone :
    IsPlainField "front".toList ∧ IsQuotable "a b".toList ∧
    (parse (.ofSeconds 0) (quotedTerm "front".toList "a b".toList)).result =
      .ok { condition := .all [.field "front" .pattern (.text "a b")] } ∧
    ∃ q, (parse (.ofSeconds 0) "tag:x".toList).result = .ok q ∧
      (parse (.ofSeconds 0)
          (quotedTerm "front".toList "a b".toList ++ orMark ++ "tag:x".toList)).result.map
          (·.condition) ≠
        .ok (.any [.all [.field "front" .pattern (.text "a b")], q.condition]) := by
  have hf : IsPlainField "front".toList := by decide
  have hv : IsQuotable "a b".toList := ⟨by decide, by decide, by decide, by decide⟩
  have hkept : KeptBySigns "a b".toList := Or.inr (by simp [TermOp.signs, TermOp.all, TermOp.sign])
  obtain ⟨halone, q, hq, hor⟩ := quoted_value_iff hf hv (.ofSeconds 0)
  refine ⟨hf, hv, halone.2 hkept, q, hq, fun h => ?_⟩
  exact (hor.1 h).2.1 ' ' (by decide) (by decide)

/-- The signs cut what quotation marks held together. -/
theorem quoted_colon_refused :
    (parse (.ofSeconds 0) "front:\"a:b\"".toList).result =
      .error (.invalidTerm "front:a:b") := by
  cbv

end CardSearch.Query
