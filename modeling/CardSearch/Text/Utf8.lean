import CardSearch.Text.CodeRanges

/-!
# Ranges of characters as bytes

In UTF-8 a character is a first byte and up to three more. The characters of a
range do not make one range of bytes at each place, but they fall into few
sequences of such ranges: one for the characters that share all but the last
byte with the first of them, one for those that share it with the last, and one
for all in between. The sequences of an ascending table are ascending too.
-/

namespace CardSearch.Text

/-- A range of bytes, by its first and last one. -/
abbrev ByteRange := Nat × Nat

/-- The range that every byte but the first one may have. -/
def laterBytes : ByteRange := (0x80, 0xbf)

/--
The sequences of the numbers from `a` to `b` in the base 64, with one more digit
than `later`. The first digit is added to `lead`, and the others to that of later bytes.
-/
def splitDigits (lead : Nat) : Nat → Nat → Nat → List (List ByteRange)
  | 0, a, b => [[(lead + a, lead + b)]]
  | later + 1, a, b =>
    let block := 64 ^ (later + 1)
    let below (digit a b : Nat) :=
      (splitDigits laterBytes.1 later a b).map ((lead + digit, lead + digit) :: ·)
    let first := a / block
    let last := b / block
    if first = last then below first (a % block) (b % block)
    else
      let fromStart := a % block = 0
      let toEnd := b % block = block - 1
      let first' := if fromStart then first else first + 1
      let last' := if toEnd then last + 1 else last
      (if fromStart then [] else below first (a % block) (block - 1)) ++
        (if first' < last' then
          [(lead + first', lead + last' - 1) :: List.replicate (later + 1) laterBytes]
        else []) ++
        if toEnd then [] else below last 0 (b % block)

/-- Code points by length: the first and the last one, the number of later bytes, and the lead. -/
def lengthClasses : List (Nat × Nat × Nat × Nat) := [
  (0, 0x7f, 0, 0), (0x80, 0x7ff, 1, 0xc0), (0x800, 0xd7ff, 2, 0xe0), (0xe000, 0xffff, 2, 0xe0),
  (0x10000, 0x10ffff, 3, 0xf0)]

/-- The sequences of the characters from one code point to another. -/
def byteSequences (range : Nat × Nat) : List (List ByteRange) :=
  lengthClasses.flatMap fun (first, last, later, lead) =>
    let a := max range.1 first
    let b := min range.2 last
    if a ≤ b then splitDigits lead later a b else []

/-- The sequences of the characters of a table. -/
def CodeRanges.byteSequences (t : CodeRanges) : List (List ByteRange) :=
  t.ranges.flatMap Text.byteSequences

/-- The sequence of a single character. -/
def charSequence (c : Char) : List ByteRange :=
  (String.utf8EncodeChar c).map fun b => (b.toNat, b.toNat)

end CardSearch.Text
