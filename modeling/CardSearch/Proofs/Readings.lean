import CardSearch.Query.Reading
import Mathlib.Data.List.Forall2

/-!
# Readings in a row

A row of readings stops at its first error and keeps the values before it only
if there is none. The lemmas here say so once for rows of any length: a row cut
in two (`sequence_append`), a row without errors (`result_sequence_of_ok`), and a
row whose first error is known (`result_sequence_of_error`). Warnings never decide
a result, so most statements are about `result` alone. Where the warnings count
too, two readings agree when they differ in their values at most (`Agree`), and a
row of rows agrees with the one long row (`Agree.sequence_flatMap`).
-/

namespace CardSearch.Query.Reading

variable {α β : Type}

@[simp] theorem result_map (f : α → β) (r : Reading α) :
    (r.map f).result = r.result.map f := rfl

theorem result_map_eq_ok_iff {f : α → β} {r : Reading α} {b : β} :
    (r.map f).result = .ok b ↔ ∃ a, r.result = .ok a ∧ f a = b := by
  rw [result_map]
  cases r.result with
  | error e => simp [Except.map]
  | ok a => simp [Except.map]

theorem result_map_eq_error_iff {f : α → β} {r : Reading α} {e : QueryError} :
    (r.map f).result = .error e ↔ r.result = .error e := by
  rw [result_map]
  cases r.result with
  | error e' => simp [Except.map]
  | ok a => simp [Except.map]

theorem map_id (r : Reading α) : r.map id = r := by
  obtain ⟨result, warnings⟩ := r
  cases result <;> rfl

theorem pure_bind (a : α) (f : α → Reading β) : (pure a).bind f = f a := rfl

/-- A row cut in two. -/
theorem sequence_append (rs ss : List (Reading α)) :
    sequence (rs ++ ss) = (sequence rs).bind fun as => (sequence ss).map (as ++ ·) := by
  induction rs with
  | nil =>
      rw [List.nil_append, sequence_nil, pure_bind]
      exact (map_id _).symm
  | cons r rest ih =>
      rw [List.cons_append, sequence, sequence, ih]
      cases hr : r.result with
      | error e => simp only [bind, hr]
      | ok a =>
          cases hrest : (sequence rest).result with
          | error e => simp only [bind, map, hr, hrest, Except.map]
          | ok as =>
              cases hss : (sequence ss).result with
              | error e => simp only [bind, map, hr, hrest, hss, Except.map, List.append_assoc]
              | ok bs =>
                  simp only [bind, map, hr, hrest, hss, Except.map, List.append_assoc,
                    List.cons_append]

theorem result_sequence_append_of_error {rs ss : List (Reading α)} {e : QueryError}
    (h : (sequence rs).result = .error e) : (sequence (rs ++ ss)).result = .error e := by
  rw [sequence_append, bind, h]

/-- The values of two rows, one after the other. -/
theorem result_sequence_append_of_ok {rs ss : List (Reading α)} {as : List α}
    (h : (sequence rs).result = .ok as) :
    (sequence (rs ++ ss)).result = (sequence ss).result.map (as ++ ·) := by
  rw [sequence_append, bind, h, ← result_map]

theorem result_sequence_of_ok {f : α → Reading β} {g : α → β} {as : List α}
    (h : ∀ a ∈ as, (f a).result = .ok (g a)) :
    (sequence (as.map f)).result = .ok (as.map g) := by
  induction as with
  | nil => rfl
  | cons a as ih =>
      rw [List.map_cons, result_sequence_cons_ok (h a List.mem_cons_self),
        ih fun b hb => h b (List.mem_cons_of_mem a hb)]
      rfl

/-- The first error of a row is its result. -/
theorem result_sequence_of_error {f : α → Reading β} {before after : List α} {a : α}
    {e : QueryError} (hbefore : ∀ b ∈ before, ∃ x, (f b).result = .ok x)
    (ha : (f a).result = .error e) :
    (sequence ((before ++ a :: after).map f)).result = .error e := by
  induction before with
  | nil => rw [List.nil_append, List.map_cons, sequence_cons_error ha]
  | cons b before ih =>
      obtain ⟨x, hx⟩ := hbefore b List.mem_cons_self
      rw [List.cons_append, List.map_cons, result_sequence_cons_ok hx,
        ih fun c hc => hbefore c (List.mem_cons_of_mem b hc)]
      rfl

/-- Each reading of a row without an error gives the value in its place. -/
theorem forall₂_of_result_sequence {f : α → Reading β} {as : List α} {bs : List β}
    (h : (sequence (as.map f)).result = .ok bs) :
    List.Forall₂ (fun a b => (f a).result = .ok b) as bs := by
  induction as generalizing bs with
  | nil =>
      obtain rfl : [] = bs := Except.ok.inj h
      exact .nil
  | cons a as ih =>
      rw [List.map_cons] at h
      cases ha : (f a).result with
      | error e =>
          rw [sequence_cons_error ha] at h
          cases h
      | ok b =>
          rw [result_sequence_cons_ok ha, ← result_map, result_map_eq_ok_iff] at h
          obtain ⟨cs, hcs, rfl⟩ := h
          exact .cons ha (ih hcs)

/-- Every value of a row is read from one of the texts. -/
theorem exists_of_mem_result_sequence {f : α → Reading β} {as : List α} {bs : List β}
    (h : (sequence (as.map f)).result = .ok bs) {b : β} (hb : b ∈ bs) :
    ∃ a ∈ as, (f a).result = .ok b := by
  have hall := forall₂_of_result_sequence h
  clear h
  induction hall with
  | nil => cases hb
  | cons hread hrest ih =>
      rcases List.mem_cons.1 hb with rfl | hb
      · exact ⟨_, List.mem_cons_self, hread⟩
      · obtain ⟨a, ha, hread'⟩ := ih hb
        exact ⟨a, List.mem_cons_of_mem _ ha, hread'⟩

/-- A row has values when its first reading has one and the others have. -/
theorem toOption_sequence_cons (r : Reading α) (rest : List (Reading α)) :
    (sequence (r :: rest)).result.toOption =
      r.result.toOption.bind fun a => (sequence rest).result.toOption.map (a :: ·) := by
  cases hr : r.result with
  | error e =>
      rw [sequence_cons_error hr]
      rfl
  | ok a =>
      rw [result_sequence_cons_ok hr]
      cases (sequence rest).result <;> rfl

theorem toOption_map (f : α → β) (r : Reading α) :
    (r.map f).result.toOption = r.result.toOption.map f := by
  rw [result_map]
  cases r.result <;> rfl

/-- A row fails when one of its readings does. -/
theorem result_sequence_fails_iff {f : α → Reading β} {as : List α} :
    (∃ e, (sequence (as.map f)).result = .error e) ↔ ∃ a ∈ as, ∃ e, (f a).result = .error e := by
  induction as with
  | nil =>
      constructor
      · rintro ⟨e, he⟩
        cases he
      · rintro ⟨a, ha, -⟩
        cases ha
  | cons a as ih =>
      rw [List.map_cons]
      cases ha : (f a).result with
      | error e =>
          rw [sequence_cons_error ha]
          exact ⟨fun _ => ⟨a, List.mem_cons_self, e, ha⟩, fun _ => ⟨e, rfl⟩⟩
      | ok b =>
          simp only [result_sequence_cons_ok ha, ← result_map, result_map_eq_error_iff, ih]
          constructor
          · rintro ⟨c, hc, he⟩
            exact ⟨c, List.mem_cons_of_mem a hc, he⟩
          · rintro ⟨c, hc, e, he⟩
            rcases List.mem_cons.1 hc with rfl | hc
            · rw [ha] at he
              cases he
            · exact ⟨c, hc, e, he⟩

/-! ## Readings that agree -/

/-- Two readings with the same warnings that fail alike, or give values that belong together. -/
inductive Agree (R : α → β → Prop) : Reading α → Reading β → Prop where
  | ok {a : α} {b : β} {warnings : List Warning} (values : R a b) :
      Agree R ⟨.ok a, warnings⟩ ⟨.ok b, warnings⟩
  | error {e : QueryError} {warnings : List Warning} :
      Agree R ⟨.error e, warnings⟩ ⟨.error e, warnings⟩

namespace Agree

variable {γ δ : Type} {R : α → β → Prop} {S : γ → δ → Prop} {r : Reading α} {s : Reading β}

theorem of_map {f : α → β} (r : Reading α) (h : ∀ a, R a (f a)) : Agree R r (r.map f) := by
  obtain ⟨result, warnings⟩ := r
  cases result with
  | error e => exact .error
  | ok a => exact .ok (h a)

theorem map {f : α → γ} {g : β → δ} (h : Agree R r s) (hfg : ∀ a b, R a b → S (f a) (g b)) :
    Agree S (r.map f) (s.map g) := by
  cases h with
  | error => exact .error
  | ok hab => exact .ok (hfg _ _ hab)

theorem bind {f : α → Reading γ} {g : β → Reading δ} (h : Agree R r s)
    (hfg : ∀ a b, R a b → Agree S (f a) (g b)) : Agree S (r.bind f) (s.bind g) := by
  cases h with
  | error => exact .error
  | @ok a b warnings hab =>
      have hnext := hfg a b hab
      show Agree S ⟨(f a).result, warnings ++ (f a).warnings⟩
        ⟨(g b).result, warnings ++ (g b).warnings⟩
      generalize f a = u at hnext ⊢
      generalize g b = v at hnext ⊢
      cases hnext with
      | error => exact .error
      | ok hcd => exact .ok hcd

/-- A row of rows fails as one long row does, and else has the same to show. -/
theorem sequence_flatMap {ι κ : Type} {rows : ι → List (Reading α)} {whole : ι → Reading β}
    {parts : α → List κ} {partsOfWhole : β → List κ} {is : List ι}
    (h : ∀ i ∈ is, Agree (fun as b => partsOfWhole b = as.flatMap parts)
      (sequence (rows i)) (whole i)) :
    Agree (fun as bs => bs.flatMap partsOfWhole = as.flatMap parts)
      (sequence (is.flatMap rows)) (sequence (is.map whole)) := by
  induction is with
  | nil => exact .ok rfl
  | cons i is ih =>
      rw [List.flatMap_cons, List.map_cons, sequence_append]
      refine (h i List.mem_cons_self).bind fun as b hb => ?_
      refine (ih fun j hj => h j (List.mem_cons_of_mem i hj)).map fun as' bs hbs => ?_
      rw [List.flatMap_cons, List.flatMap_append, hb, hbs]

end Agree

end CardSearch.Query.Reading
