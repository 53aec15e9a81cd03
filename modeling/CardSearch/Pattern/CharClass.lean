import CardSearch.Text.Casing
import CardSearch.Text.Utf8

/-!
# Character classes

A class is an expression that denotes a set of characters. It is built from
single characters, ranges and tables by the operations on sets, and by `folded`,
which closes a set under simple case folding. `contains` says which characters
are in the class; `ranges` is the same set written out.
-/

namespace CardSearch

open Text

inductive CharClass where
  /-- The listed characters. -/
  | chars (cs : List Char)
  /-- The characters from the first to the last one. -/
  | range (first last : Char)
  /-- The characters of a table. -/
  | table (ranges : CodeRanges)
  | union (a b : CharClass)
  | inter (a b : CharClass)
  | diff (a b : CharClass)
  | symmDiff (a b : CharClass)
  | complement (a : CharClass)
  /-- The characters that are alike but for case to one of the set. -/
  | folded (a : CharClass)
  /-- The same for the letters of ASCII alone. -/
  | foldedAscii (a : CharClass)
deriving DecidableEq, Repr

namespace CharClass

/-- The class without characters. -/
def empty : CharClass := chars []

/-- The characters of ASCII. -/
def ascii : CharClass := range '\x00' '\x7f'

/-- A letter of ASCII in both cases, any other character alone. -/
def asciiOrbit (c : Char) : List Char :=
  if 'a' ≤ c ∧ c ≤ 'z' then [c, Char.ofNat (c.toNat - 32)]
  else if 'A' ≤ c ∧ c ≤ 'Z' then [c, Char.ofNat (c.toNat + 32)]
  else [c]

/-- Whether a character is in the class. -/
def contains : CharClass → Char → Bool
  | chars cs, c => cs.contains c
  | range first last, c => first ≤ c && c ≤ last
  | table ranges, c => ranges.contains c
  | union a b, c => a.contains c || b.contains c
  | inter a b, c => a.contains c && b.contains c
  | diff a b, c => a.contains c && !b.contains c
  | symmDiff a b, c => a.contains c != b.contains c
  | complement a, c => !a.contains c
  | folded a, c => (orbit c).any a.contains
  | foldedAscii a, c => (asciiOrbit c).any a.contains

/-! ## Written out -/

/-- What is paired with the code points of ascending ranges, by ascending pairs. -/
def partners : List (Nat × Nat) → List (Nat × Nat) → List Nat
  | (n, m) :: pairs, (first, last) :: ranges =>
    if n < first then partners pairs ((first, last) :: ranges)
    else if last < n then partners ((n, m) :: pairs) ranges
    else m :: partners pairs ((first, last) :: ranges)
  | _, _ => []
termination_by pairs ranges => pairs.length + ranges.length

/-- The ranges of code points that make up the class. -/
def ranges : CharClass → CodeRanges
  | chars cs => .ofChars cs
  | range first last => ⟨if first ≤ last then [(first.toNat, last.toNat)] else []⟩
  | table t => t
  | union a b => a.ranges.union b.ranges
  | inter a b => a.ranges.inter b.ranges
  | diff a b => a.ranges.diff b.ranges
  | symmDiff a b => a.ranges.symmDiff b.ranges
  | complement a => a.ranges.complement
  | folded a =>
    let t := a.ranges
    t.union (.ofCodes (partners alikePairs t.ranges))
  | foldedAscii a =>
    let t := a.ranges
    t.union (.ofCodes (partners asciiPairs t.ranges))

/-- The ranges of bytes that the characters of the class are made of. -/
def byteSequences : CharClass → List (List ByteRange)
  | chars cs => (cs.mergeSort fun a b => a ≤ b).map charSequence
  | a => a.ranges.byteSequences

/-- The character of a class that has a single one. -/
def single? (a : CharClass) : Option Char :=
  match a.ranges.ranges with
  | [(first, last)] => if first = last then some (Char.ofNat first) else none
  | _ => none

/-- The characters of any of the classes. -/
def unions : List CharClass → CharClass
  | [] => empty
  | [a] => a
  | a :: b :: rest => union a (unions (b :: rest))

end CharClass

end CardSearch
