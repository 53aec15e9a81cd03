import CardSearch.Json.Basic
import CardSearch.Number.Shortest

/-!
# JSON text

Two forms of the same value: `compact`, on one line and without blanks, and
`pretty`, indented by two spaces a level. Both write an object's fields in the
order in which it holds them. In a string only the quotation mark, the backslash
and the control characters are escaped.
-/

namespace CardSearch.Json

open CardSearch.Number (decimal)

/-- A hexadecimal digit in lower case. -/
def hexDigit (n : Nat) : Char := Nat.digitChar n

/-- A character inside a quoted string. -/
def escapeChar (c : Char) : List Char :=
  match c with
  | '"' => ['\\', '"']
  | '\\' => ['\\', '\\']
  | '\x08' => ['\\', 'b']
  | '\t' => ['\\', 't']
  | '\n' => ['\\', 'n']
  | '\x0c' => ['\\', 'f']
  | '\r' => ['\\', 'r']
  | c =>
    if c.toNat < 0x20 then
      ['\\', 'u', '0', '0', hexDigit (c.toNat / 16), hexDigit (c.toNat % 16)]
    else [c]

/-- A string between quotation marks. -/
def quote (s : String) : List Char := '"' :: s.toList.flatMap escapeChar ++ ['"']

/-- A number in decimal. -/
def Number.text : Json.Number → List Char
  | .int n => decimal n
  | .float x => x.text

/-- The text of a value that holds no others. -/
def scalarText : Json → List Char
  | .bool true => ['t', 'r', 'u', 'e']
  | .bool false => ['f', 'a', 'l', 's', 'e']
  | .number n => n.text
  | .string s => quote s
  | _ => ['n', 'u', 'l', 'l']

mutual

/-- The value on one line, without blanks. -/
def compact : Json → List Char
  | .array items => '[' :: compactItems items ++ [']']
  | .object fields => '{' :: compactFields fields ++ ['}']
  | v => scalarText v

def compactItems : List Json → List Char
  | [] => []
  | [v] => compact v
  | v :: w :: rest => compact v ++ ',' :: compactItems (w :: rest)

def compactFields : List (String × Json) → List Char
  | [] => []
  | [(k, v)] => quote k ++ ':' :: compact v
  | (k, v) :: f :: rest => quote k ++ ':' :: compact v ++ ',' :: compactFields (f :: rest)

end

/-- A line break and the indentation of a level. -/
def newline (level : Nat) : List Char := '\n' :: List.replicate (2 * level) ' '

mutual

/-- The value over several lines, indented from the given level on. -/
def prettyAt (level : Nat) : Json → List Char
  | .array [] => ['[', ']']
  | .array (v :: rest) => '[' :: prettyItems level (v :: rest) ++ newline level ++ [']']
  | .object [] => ['{', '}']
  | .object (f :: rest) => '{' :: prettyFields level (f :: rest) ++ newline level ++ ['}']
  | v => scalarText v

def prettyItems (level : Nat) : List Json → List Char
  | [] => []
  | [v] => newline (level + 1) ++ prettyAt (level + 1) v
  | v :: w :: rest =>
    newline (level + 1) ++ prettyAt (level + 1) v ++ ',' :: prettyItems level (w :: rest)

def prettyFields (level : Nat) : List (String × Json) → List Char
  | [] => []
  | [(k, v)] => newline (level + 1) ++ quote k ++ ':' :: ' ' :: prettyAt (level + 1) v
  | (k, v) :: f :: rest =>
    newline (level + 1) ++ quote k ++ ':' :: ' ' :: prettyAt (level + 1) v ++
      ',' :: prettyFields level (f :: rest)

end

/-- The value over several lines. -/
def pretty (v : Json) : String := String.ofList (prettyAt 0 v)

/-- The value on one line, as a string. -/
def text (v : Json) : String := String.ofList v.compact

end CardSearch.Json
