import CardSearch.Number.Double

/-!
# JSON values

Cards are JSON objects, so this is the value type of the whole library. A number
is either a whole number of at most 64 bits or a double. An object is a list of
pairs, so that a text can be read as it stands; `sorted` gives the form in which
records are kept, keys ascending and the last of several equal keys winning.
-/

namespace CardSearch

open Number (Double)

/-- A whole number, or a number with a fraction or an exponent. -/
inductive Json.Number where
  | int (n : Int)
  | float (x : Double)
deriving DecidableEq, Repr

inductive Json where
  | null
  | bool (b : Bool)
  | number (n : Json.Number)
  | string (s : String)
  | array (items : List Json)
  | object (fields : List (String × Json))
deriving Inhabited, BEq, Repr

namespace Json

/-- The pairs of an object. -/
abbrev Fields := List (String × Json)

/-- The text of a string value. -/
def string? : Json → Option String
  | .string s => some s
  | _ => none

/-- The items of an array value. -/
def array? : Json → Option (List Json)
  | .array items => some items
  | _ => none

/-- The fields of an object value. -/
def object? : Json → Option Fields
  | .object fields => some fields
  | _ => none

def isNull : Json → Bool
  | .null => true
  | _ => false

/-- The value of a key, in an object. -/
def field? (v : Json) (key : String) : Option Json := v.object?.bind (·.lookup key)

/-- The fields with one more pair at its place in key order, an equal key being replaced. -/
def put (key : String) (value : Json) : Fields → Fields
  | [] => [(key, value)]
  | (k, v) :: rest =>
    if key = k then (key, value) :: rest
    else if key < k then (key, value) :: (k, v) :: rest
    else (k, v) :: put key value rest

mutual

/-- The value with the keys of every object in order, the last of several equal keys winning. -/
def sorted : Json → Json
  | .array items => .array (sortedItems items)
  | .object fields => .object (sortedFields [] fields)
  | v => v

def sortedItems : List Json → List Json
  | [] => []
  | v :: rest => sorted v :: sortedItems rest

/-- Puts fields one after the other into fields that are in order already. -/
def sortedFields (done : Fields) : Fields → Fields
  | [] => done
  | (k, v) :: rest => sortedFields (put k (sorted v) done) rest

end

/-- The value just put under a key is found there. -/
theorem lookup_put_self (key : String) (value : Json) (fields : Fields) :
    (put key value fields).lookup key = some value := by
  induction fields with
  | nil => simp [put]
  | cons f rest ih =>
    obtain ⟨k, v⟩ := f
    simp only [put]
    split
    · simp
    · split
      · simp
      · rename_i hne _
        simp [List.lookup_cons, beq_false_of_ne hne, ih]

/-- Putting a value leaves the other keys alone. -/
theorem lookup_put_of_ne {key other : String} (h : other ≠ key) (value : Json) (fields : Fields) :
    (put key value fields).lookup other = fields.lookup other := by
  induction fields with
  | nil => simp [put, List.lookup_cons, beq_false_of_ne h]
  | cons f rest ih =>
    obtain ⟨k, v⟩ := f
    simp only [put]
    split
    · rename_i hk
      subst hk
      simp [List.lookup_cons, beq_false_of_ne h]
    · split
      · simp [List.lookup_cons, beq_false_of_ne h]
      · simp [List.lookup_cons, ih]

end Json

end CardSearch
