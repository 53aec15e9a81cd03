import CardSearch.Json.Basic

/-!
# What a field holds

Looking up a field of a card finds nothing, a single value or a list. The same
name may lead to a list from a column and to another from the custom fields;
`merge` puts the two together. It is associative and `absent` is its unit.
-/

namespace CardSearch

inductive Found where
  /-- No value, null, or an object without fields. -/
  | absent
  /-- A single value. -/
  | one (v : Json)
  /-- The items of a list or of several sources. -/
  | many (vs : List Json)
deriving BEq, Repr

namespace Found

/-- What a JSON value amounts to. -/
def ofValue : Json → Found
  | .null => absent
  | .object [] => absent
  | .array items => many items
  | v => one v

def isAbsent : Found → Bool
  | absent => true
  | _ => false

/-- The single values. -/
def values : Found → List Json
  | absent => []
  | one v => [v]
  | many vs => vs

/-- Two finds as one: nothing adds nothing, and all else makes a list. -/
def merge : Found → Found → Found
  | f, absent => f
  | absent, g => g
  | f, g => many (f.values ++ g.values)

@[simp] theorem merge_absent (f : Found) : f.merge absent = f := by
  cases f <;> rfl

@[simp] theorem absent_merge (f : Found) : absent.merge f = f := by
  cases f <;> rfl

@[simp] theorem values_merge (f g : Found) : (f.merge g).values = f.values ++ g.values := by
  cases f <;> cases g <;> simp [merge, values]

theorem merge_assoc (f g h : Found) : (f.merge g).merge h = f.merge (g.merge h) := by
  cases f <;> cases g <;> cases h <;> simp [merge, values]

@[simp] theorem isAbsent_merge (f g : Found) :
    (f.merge g).isAbsent = (f.isAbsent && g.isAbsent) := by
  cases f <;> cases g <;> rfl

end Found

end CardSearch
