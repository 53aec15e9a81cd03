import CardSearch.Text.Latest

/-!
# Quoted text

Operands are shown between quotation marks, so that every one of them reads as
one word on one line. Backslash and quotation mark are escaped by a backslash,
line breaks, tabs and the null character by a letter, and every other character
that does not print or joins the one before it by its code point.
-/

namespace CardSearch.Text

/-- Whether a character can stand in quoted text as it is. -/
def isPrintable (c : Char) : Bool :=
  c = ' ' || Latest.isVisible c

/-- A character by its code point. -/
def codePointEscape (c : Char) : List Char :=
  ['\\', 'u', '{'] ++ Nat.toDigits 16 c.toNat ++ ['}']

/-- A character inside quoted text. -/
def quoteChar (c : Char) : List Char :=
  match c with
  | '\x00' => ['\\', '0']
  | '\t' => ['\\', 't']
  | '\n' => ['\\', 'n']
  | '\r' => ['\\', 'r']
  | '"' => ['\\', '"']
  | '\\' => ['\\', '\\']
  | c => if isPrintable c then [c] else codePointEscape c

/-- The text between quotation marks. -/
def quoted (s : List Char) : List Char := '"' :: s.flatMap quoteChar ++ ['"']

end CardSearch.Text
