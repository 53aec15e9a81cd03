/-!
# Ranges of code points

The tables of the Unicode Standard are sets of characters, given as ascending
ranges of code points. A table is written as rows of words, each word a code
point or two with a dash between them, in hexadecimal. The operations on sets
keep ranges ascending and apart from one another, so the number of ranges is the
least one that a set needs.
-/

namespace CardSearch.Text

/-- Ranges of code points, each given by its first and last one, in ascending order. -/
structure CodeRanges where
  ranges : List (Nat × Nat)
deriving DecidableEq, Repr, Inhabited

namespace CodeRanges

/-- Whether a code point is in one of the ranges; the search ends at the first that is not past. -/
def search (n : Nat) : List (Nat × Nat) → Bool
  | [] => false
  | (first, last) :: rest => if last < n then search n rest else first ≤ n

/-- Whether the table has a character. -/
def contains (t : CodeRanges) (c : Char) : Bool := search c.toNat t.ranges

/-! ## Operations on sets -/

/-- The table without characters. -/
def empty : CodeRanges := ⟨[]⟩

/-- Ranges in the order of their first code points, those that overlap or touch made one. -/
def join : List (Nat × Nat) → List (Nat × Nat)
  | a :: b :: rest =>
    if b.1 ≤ a.2 + 1 then join ((a.1, max a.2 b.2) :: rest) else a :: join (b :: rest)
  | rs => rs
termination_by rs => rs.length

/-- The characters of either table. -/
def union (s t : CodeRanges) : CodeRanges :=
  ⟨join (s.ranges.merge t.ranges fun a b => a.1 ≤ b.1)⟩

/-- The characters of several tables. -/
def unions (ts : List CodeRanges) : CodeRanges := ts.foldl union empty

/-- The code points that stand for halves of characters and are none themselves. -/
def surrogates : CodeRanges := ⟨[(0xd800, 0xdfff)]⟩

/-- What lies between the ranges, from a code point on. -/
def gaps (next : Nat) : List (Nat × Nat) → List (Nat × Nat)
  | [] => if next ≤ 0x10ffff then [(next, 0x10ffff)] else []
  | (first, last) :: rest =>
    if next < first then (next, first - 1) :: gaps (last + 1) rest else gaps (last + 1) rest

/-- The characters that the table does not have. -/
def complement (t : CodeRanges) : CodeRanges := ⟨gaps 0 (t.union surrogates).ranges⟩

/-- The characters of both tables. -/
def inter (s t : CodeRanges) : CodeRanges := (s.complement.union t.complement).complement

/-- The characters of the first table that the second does not have. -/
def diff (s t : CodeRanges) : CodeRanges := (s.complement.union t).complement

/-- The characters of exactly one of the tables. -/
def symmDiff (s t : CodeRanges) : CodeRanges := (s.diff t).union (t.diff s)

/-- The listed code points, which may stand in any order. -/
def ofCodes (ns : List Nat) : CodeRanges := ⟨join ((ns.mergeSort (· ≤ ·)).map fun n => (n, n))⟩

/-- The listed characters, which may stand in any order. -/
def ofChars (cs : List Char) : CodeRanges := ofCodes (cs.map Char.toNat)

/-! ## Rows -/

/-- The value of a hexadecimal number in lower case. -/
def ofHex (s : String) : Nat :=
  s.foldl (fun n c => n * 16 + if c.isDigit then c.toNat - 48 else c.toNat - 87) 0

/-- One word of a table. -/
def ofWord (s : String) : Nat × Nat :=
  match s.splitOn "-" with
  | [first, last] => (ofHex first, ofHex last)
  | _ => (ofHex s, ofHex s)

/-- The table written in rows. -/
def ofRows (rows : List String) : CodeRanges :=
  ⟨rows.flatMap fun row => (row.splitOn " ").map ofWord⟩

end CodeRanges

end CardSearch.Text
