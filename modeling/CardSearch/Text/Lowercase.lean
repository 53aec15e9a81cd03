import CardSearch.Text.Casing
import CardSearch.Text.Latest

/-!
# Text in lower case

Each character is sent to its lower case on its own, except the capital sigma:
at the end of a word it becomes the final form. A sigma ends a word when a cased
character stands before it and none after it, characters that case ignores aside.
-/

namespace CardSearch.Text

/-- Whether the first character that case does not ignore is cased. -/
def startsCased (s : List Char) : Bool :=
  (s.dropWhile Latest.isCaseIgnorable).head?.any Latest.isCased

/-- The lower case of the capital sigma between what stands before it, last first, and after it. -/
def lowercaseSigma (before after : List Char) : Char :=
  if startsCased before && !startsCased after then 'ς' else 'σ'

/-- The lower case of a text that follows other characters, given last first. -/
def lowercaseAfter (before : List Char) : List Char → List Char
  | [] => []
  | c :: rest =>
    (if c = 'Σ' then [lowercaseSigma before rest] else lowercaseChar c) ++
      lowercaseAfter (c :: before) rest

/-- The text in lower case. -/
def lowercase (s : List Char) : List Char := lowercaseAfter [] s

/-- The string in lower case. -/
def lowercaseString (s : String) : String := String.ofList (lowercase s.toList)

end CardSearch.Text
