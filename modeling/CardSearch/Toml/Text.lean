import CardSearch.Number.Integer
import CardSearch.Toml.Basic

/-!
# TOML strings

A string is written in double quotes, where a backslash begins an escape, or in
single quotes, where nothing does; in three quotes of a kind it may go over
several lines. Writing takes the form that needs no escapes, if there is one:
double quotes, single quotes, three double quotes, three single quotes.
-/

namespace CardSearch.Toml

/-- A tab and the characters from the space on, DEL aside. -/
def isPlain (c : Char) : Bool := c = '\t' || (0x20 ≤ c.toNat && c.toNat ≠ 0x7f)

def isSpace (c : Char) : Bool := c = ' ' || c = '\t'

/-- What follows a line break. -/
def afterNewline? : List Char → Option (List Char)
  | '\n' :: rest => some rest
  | '\r' :: '\n' :: rest => some rest
  | _ => none

/-! ## Reading -/

/-- The character whose number a fixed count of hexadecimal digits tells. -/
def readCode? (count : Nat) (s : List Char) : Option (Char × List Char) :=
  if (s.take count).length = count then
    ((Number.ofHex? (s.take count)).bind Number.charOfCode?).map fun c => (c, s.drop count)
  else none

/-- The character of an escape, after the backslash. -/
def readEscape? : List Char → Option (Char × List Char)
  | 'b' :: rest => some ('\x08', rest)
  | 't' :: rest => some ('\t', rest)
  | 'n' :: rest => some ('\n', rest)
  | 'f' :: rest => some ('\x0c', rest)
  | 'r' :: rest => some ('\r', rest)
  | '"' :: rest => some ('"', rest)
  | '\\' :: rest => some ('\\', rest)
  | 'u' :: rest => readCode? 4 rest
  | 'U' :: rest => readCode? 8 rest
  | _ => none

/-- The rest of a string in double quotes. -/
def readBasic? (s : List Char) : Option (List Char × List Char) :=
  match s with
  | [] => none
  | '"' :: rest => some ([], rest)
  | '\\' :: rest =>
    match readEscape? rest with
    | none => none
    | some (c, more) =>
      if _ : more.length ≤ rest.length then (readBasic? more).map fun (t, rest) => (c :: t, rest)
      else none
  | c :: rest =>
    if isPlain c then (readBasic? rest).map fun (t, rest) => (c :: t, rest) else none
termination_by s.length

/-- The rest of a string in single quotes. -/
def readLiteral? : List Char → Option (List Char × List Char)
  | [] => none
  | '\'' :: rest => some ([], rest)
  | c :: rest =>
    if isPlain c then (readLiteral? rest).map fun (t, rest) => (c :: t, rest) else none

/-- Up to two more quotes, which still belong to a string that three quotes close. -/
def takeQuotes (quote : Char) (s : List Char) : List Char × List Char :=
  let more := (s.take 2).takeWhile (· = quote)
  (more, s.drop more.length)

/-- The text after blanks and line breaks, where a line that ends in a backslash goes on. -/
def skipBreaks : List Char → List Char
  | [] => []
  | '\r' :: '\n' :: rest => skipBreaks rest
  | c :: rest => if isSpace c || c = '\n' then skipBreaks rest else c :: rest

/-- The text after a line break that a backslash takes out. -/
def afterJoin? (s : List Char) : Option (List Char) :=
  (afterNewline? (s.dropWhile isSpace)).map skipBreaks

/-- The rest of a string in three double quotes. -/
def readLongBasic? (s : List Char) : Option (List Char × List Char) :=
  match s with
  | [] => none
  | '"' :: '"' :: '"' :: rest => some (takeQuotes '"' rest)
  | '\\' :: rest =>
    match afterJoin? rest with
    | some more => if _ : more.length ≤ rest.length then readLongBasic? more else none
    | none =>
      match readEscape? rest with
      | none => none
      | some (c, more) =>
        if _ : more.length ≤ rest.length then
          (readLongBasic? more).map fun (t, rest) => (c :: t, rest)
        else none
  | '\r' :: '\n' :: rest => (readLongBasic? rest).map fun (t, rest) => ('\n' :: t, rest)
  | c :: rest =>
    if isPlain c || c = '\n' then (readLongBasic? rest).map fun (t, rest) => (c :: t, rest)
    else none
termination_by s.length

/-- The rest of a string in three single quotes. -/
def readLongLiteral? : List Char → Option (List Char × List Char)
  | [] => none
  | '\'' :: '\'' :: '\'' :: rest => some (takeQuotes '\'' rest)
  | '\r' :: '\n' :: rest => (readLongLiteral? rest).map fun (t, rest) => ('\n' :: t, rest)
  | c :: rest =>
    if isPlain c || c = '\n' then (readLongLiteral? rest).map fun (t, rest) => (c :: t, rest)
    else none

/-- The text without a line break at its start. -/
def skipFirstBreak (s : List Char) : List Char := (afterNewline? s).getD s

/-- A string on one line. -/
def readLineText? : List Char → Option (List Char × List Char)
  | '"' :: rest => readBasic? rest
  | '\'' :: rest => readLiteral? rest
  | _ => none

/-- A string in any form. -/
def readText? : List Char → Option (List Char × List Char)
  | '"' :: '"' :: '"' :: rest => readLongBasic? (skipFirstBreak rest)
  | '\'' :: '\'' :: '\'' :: rest => readLongLiteral? (skipFirstBreak rest)
  | s => readLineText? s

/-! ## Writing -/

/-- The length of the longest run of a character, after a run of a given length. -/
def longestRunFrom (c : Char) (current : Nat) : List Char → Nat
  | [] => current
  | d :: rest =>
    if d = c then longestRunFrom c (current + 1) rest else max current (longestRunFrom c 0 rest)

def longestRun (c : Char) (s : List Char) : Nat := longestRunFrom c 0 s

/-- The control characters that a string can hold as escapes only. -/
def needsEscape (c : Char) : Bool := !isPlain c && c ≠ '\n'

/-- How a string is written. -/
inductive TextForm where
  | basic
  | literal
  | longBasic
  | longLiteral
deriving DecidableEq, Repr

/-- The form of a string: the first that holds it without escapes, else one of the two with them. -/
def formOf (s : List Char) : TextForm :=
  let hasBreak := s.contains '\n'
  let hasControl := s.any needsEscape
  let escapes := hasControl || s.contains '\\'
  if !escapes && longestRun '"' s = 0 && !hasBreak then .basic
  else if !hasControl && longestRun '\'' s = 0 && !hasBreak then .literal
  else if !escapes && longestRun '"' s ≤ 2 then .longBasic
  else if !hasControl && longestRun '\'' s ≤ 2 then .longLiteral
  else if hasBreak then .longBasic
  else .basic

/-- An upper-case hexadecimal digit. -/
def upperHexDigit (n : Nat) : Char := (Nat.digitChar n).toUpper

/-- A character in double quotes. -/
def escapeChar (long : Bool) (c : Char) : List Char :=
  match c with
  | '\x08' => ['\\', 'b']
  | '\t' => ['\\', 't']
  | '\n' => if long then ['\n'] else ['\\', 'n']
  | '\x0c' => ['\\', 'f']
  | '\r' => ['\\', 'r']
  | '\\' => ['\\', '\\']
  | c =>
    if isPlain c then [c]
    else ['\\', 'u', '0', '0', upperHexDigit (c.toNat / 16), upperHexDigit (c.toNat % 16)]

/--
The characters in double quotes, after a run of such quotes; a quote beyond the
greatest run is escaped.
-/
def escapeFrom (long : Bool) (run : Nat) : List Char → List Char
  | [] => []
  | '"' :: rest =>
    if run < (if long then 2 else 0) then '"' :: escapeFrom long (run + 1) rest
    else '\\' :: '"' :: escapeFrom long 0 rest
  | c :: rest => escapeChar long c ++ escapeFrom long 0 rest

/-- A line break after the opening quotes, where the string itself has one. -/
def openingBreak (s : List Char) : List Char := if s.contains '\n' then ['\n'] else []

/-- A string as it is written. -/
def textLiteral (s : List Char) : List Char :=
  match formOf s with
  | .basic => '"' :: escapeFrom false 0 s ++ ['"']
  | .literal => '\'' :: s ++ ['\'']
  | .longBasic => ['"', '"', '"'] ++ openingBreak s ++ escapeFrom true 0 s ++ ['"', '"', '"']
  | .longLiteral => ['\'', '\'', '\''] ++ openingBreak s ++ s ++ ['\'', '\'', '\'']

end CardSearch.Toml
