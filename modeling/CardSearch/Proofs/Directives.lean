import CardSearch.Query.Parser
import Mathlib.Data.List.Induction

/-!
# Orders and selections of several queries

A term or a branch may set the order, the selection, both or neither, and the
last one that sets a thing wins. `takeDirectives` is the step: it is associative
and a query that sets nothing is its unit, so it does not matter where a list of
terms is cut (`lastDirectives_append`). The last section reads the winner off
the list: the order and its direction are those of the last query with an order,
the selection that of the last query with a selection.
-/

namespace CardSearch.Query

theorem takeDirectives_assoc (p q r : Query) :
    takeDirectives (takeDirectives p q) r = takeDirectives p (takeDirectives q r) := by
  unfold takeDirectives
  cases hq : q.sortBy <;> cases hr : r.sortBy <;> simp [Option.or_assoc]

theorem takeDirectives_everything (p : Query) (c : Condition) :
    takeDirectives p { condition := c } = p := rfl

theorem foldl_takeDirectives (p : Query) (qs : List Query) :
    qs.foldl takeDirectives p = takeDirectives p (lastDirectives qs) := by
  induction qs generalizing p with
  | nil => rfl
  | cons q qs ih =>
      have hq : lastDirectives (q :: qs) =
          takeDirectives { condition := .everything } (takeDirectives q (lastDirectives qs)) := by
        rw [← takeDirectives_assoc, ← ih]
        rfl
      rw [List.foldl_cons, ih, hq, ← takeDirectives_assoc p { condition := .everything },
        takeDirectives_everything, takeDirectives_assoc]

theorem lastDirectives_append (ps qs : List Query) :
    lastDirectives (ps ++ qs) = takeDirectives (lastDirectives ps) (lastDirectives qs) := by
  rw [lastDirectives, List.foldl_append, foldl_takeDirectives]
  rfl

theorem lastDirectives_concat (qs : List Query) (q : Query) :
    lastDirectives (qs ++ [q]) = takeDirectives (lastDirectives qs) q := by
  rw [lastDirectives, List.foldl_append]
  rfl

/-! ## The last one that sets it -/

/-- The last member with a property. -/
def lastWith? {α : Type} (p : α → Bool) (as : List α) : Option α := (as.filter p).getLast?

theorem lastWith?_concat {α : Type} (p : α → Bool) (as : List α) (a : α) :
    lastWith? p (as ++ [a]) = if p a then some a else lastWith? p as := by
  unfold lastWith?
  rw [List.filter_append]
  by_cases ha : p a = true
  · rw [List.filter_cons_of_pos ha, List.filter_nil, List.getLast?_concat, if_pos ha]
  · rw [List.filter_cons_of_neg ha, List.filter_nil, List.append_nil, if_neg ha]

theorem lastWith?_map {α β : Type} (p : β → Bool) (f : α → β) (as : List α) :
    lastWith? p (as.map f) = (lastWith? (p ∘ f) as).map f := by
  unfold lastWith?
  rw [List.filter_map, List.getLast?_map]

/-- The query that the order of several queries comes from. -/
def orderSetter? (qs : List Query) : Option Query := lastWith? (·.sortBy.isSome) qs

/-- The query that the selection of several queries comes from. -/
def selectionSetter? (qs : List Query) : Option Query := lastWith? (·.selection.isSome) qs

theorem sortBy_lastDirectives (qs : List Query) :
    (lastDirectives qs).sortBy = (orderSetter? qs).bind (·.sortBy) := by
  induction qs using List.reverseRecOn with
  | nil => rfl
  | append_singleton qs q ih =>
      rw [lastDirectives_concat, orderSetter?, lastWith?_concat]
      show q.sortBy.or (lastDirectives qs).sortBy = _
      cases hq : q.sortBy with
      | none => rw [Option.none_or, ih]; rfl
      | some field => exact hq.symm

theorem descending_lastDirectives (qs : List Query) :
    (lastDirectives qs).descending = (orderSetter? qs).any (·.descending) := by
  induction qs using List.reverseRecOn with
  | nil => rfl
  | append_singleton qs q ih =>
      rw [lastDirectives_concat, orderSetter?, lastWith?_concat]
      show (if q.sortBy.isSome then q.descending else (lastDirectives qs).descending) = _
      cases hq : q.sortBy with
      | none => exact ih
      | some field => rfl

theorem selection_lastDirectives (qs : List Query) :
    (lastDirectives qs).selection = (selectionSetter? qs).bind (·.selection) := by
  induction qs using List.reverseRecOn with
  | nil => rfl
  | append_singleton qs q ih =>
      rw [lastDirectives_concat, selectionSetter?, lastWith?_concat]
      show q.selection.or (lastDirectives qs).selection = _
      cases hq : q.selection with
      | none => rw [Option.none_or, ih]; rfl
      | some s => exact hq.symm

/-! ## Terms in a row -/

theorem ofTerms_append (ts us : List SignedTerm) :
    ofTerms (ts ++ us) =
      { takeDirectives (ofTerms ts) (ofTerms us) with
        condition := .all (ts.filterMap (·.condition?) ++ us.filterMap (·.condition?)) } := by
  unfold ofTerms
  rw [List.map_append, lastDirectives_append, List.filterMap_append]
  rfl

theorem directives_of_condition?_eq_none {t : SignedTerm} (h : t.condition? = none) :
    t.directives.sortBy.isSome = true ∨ t.directives.selection.isSome = true := by
  obtain ⟨negated, term⟩ := t
  cases term with
  | filter c => cases h
  | sort field => exact Or.inl rfl
  | select s => exact Or.inr rfl

theorem isSome_lastDirectives_cons (q : Query) (qs : List Query) :
    (q.sortBy.isSome = true → (lastDirectives (q :: qs)).sortBy.isSome = true) ∧
    (q.selection.isSome = true → (lastDirectives (q :: qs)).selection.isSome = true) := by
  have h := lastDirectives_append [q] qs
  rw [List.singleton_append] at h
  rw [h]
  constructor
  · intro hq
    show ((lastDirectives qs).sortBy.or (q.sortBy.or none)).isSome = true
    rw [Option.isSome_or, Option.or_none, hq, Bool.or_true]
  · intro hq
    show ((lastDirectives qs).selection.or (q.selection.or none)).isSome = true
    rw [Option.isSome_or, Option.or_none, hq, Bool.or_true]

/-- The query of some terms is a directive when none of them asks something of
single cards. -/
theorem isDirective_ofTerms {ts : List SignedTerm} (hne : ts ≠ []) :
    (ofTerms ts).isDirective = !ts.any (·.condition?.isSome) := by
  show ((Condition.all (ts.filterMap (·.condition?))).isEverything &&
    ((lastDirectives (ts.map (·.directives))).sortBy.isSome ||
      (lastDirectives (ts.map (·.directives))).selection.isSome)) = _
  cases hany : ts.any (·.condition?.isSome) with
  | true =>
      obtain ⟨t, ht, hsome⟩ := List.any_eq_true.1 hany
      obtain ⟨c, hc⟩ := Option.isSome_iff_exists.1 hsome
      have hmem : c ∈ ts.filterMap (·.condition?) := List.mem_filterMap.2 ⟨t, ht, hc⟩
      obtain ⟨d, ds, hds⟩ := List.exists_cons_of_ne_nil (List.ne_nil_of_mem hmem)
      rw [hds]
      rfl
  | false =>
      have hnone : ∀ t ∈ ts, t.condition? = none := fun t ht => by
        simpa using List.any_eq_false.1 hany t ht
      rw [List.filterMap_eq_nil_iff.2 hnone]
      obtain ⟨t, ts, rfl⟩ := List.exists_cons_of_ne_nil hne
      have hlast := isSome_lastDirectives_cons t.directives (ts.map (·.directives))
      rw [List.map_cons]
      rcases directives_of_condition?_eq_none (hnone t List.mem_cons_self) with h | h
      · rw [hlast.1 h]; rfl
      · rw [hlast.2 h, Bool.or_true]; rfl

end CardSearch.Query
