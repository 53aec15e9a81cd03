import CardSearch.Query.Shortcut

/-!
# Readings

Reading query text gives a result or an error, and either way the warnings met
on the way, in the order of the text. What comes after an error is not read, so
it adds no warning.
-/

namespace CardSearch.Query

structure Reading (α : Type) where
  result : Except QueryError α
  warnings : List Warning := []
deriving Repr

namespace Reading

variable {α β : Type}

def pure (a : α) : Reading α := ⟨.ok a, []⟩

/-- An error at which the reading ends. -/
def fail (e : QueryError) : Reading α := ⟨.error e, []⟩

/-- A value that comes with a warning. -/
def warn (w : Warning) (a : α) : Reading α := ⟨.ok a, [w]⟩

/-- One reading and then another that depends on its value. -/
def bind (r : Reading α) (f : α → Reading β) : Reading β :=
  match r.result with
  | .error e => ⟨.error e, r.warnings⟩
  | .ok a => ⟨(f a).result, r.warnings ++ (f a).warnings⟩

def map (f : α → β) (r : Reading α) : Reading β := ⟨r.result.map f, r.warnings⟩

/-- Several readings, from the first one on, up to the first error. -/
def sequence : List (Reading α) → Reading (List α)
  | [] => pure []
  | r :: rest => r.bind fun a => (sequence rest).map (a :: ·)

@[simp] theorem sequence_nil : sequence ([] : List (Reading α)) = pure [] := rfl

/-- Readings in a row succeed when each of them does. -/
theorem result_sequence_cons_ok {r : Reading α} {a : α} (h : r.result = .ok a)
    (rest : List (Reading α)) :
    (sequence (r :: rest)).result = (sequence rest).result.map (a :: ·) := by
  simp [sequence, bind, h, map]

/-- The first error is the error of the row. -/
theorem sequence_cons_error {r : Reading α} {e : QueryError} (h : r.result = .error e)
    (rest : List (Reading α)) : sequence (r :: rest) = ⟨.error e, r.warnings⟩ := by
  simp [sequence, bind, h]

end Reading

end CardSearch.Query
