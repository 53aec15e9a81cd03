import CardSearch.Text.Property

/-!
# The latest characters

Patterns go by version 16.0 of the Unicode Standard, and so do the tables of
categories and properties. Text that is shown or sent to lower case, and names,
go by version 17.0. This module lists what that version adds to the classes of
characters on which they depend.
-/

namespace CardSearch.Text.Latest

/-- Alphabetic characters of the latest version. -/
def alphabetic : CodeRanges := .ofRows [
    "88f c5c cdc a7ce-a7cf a7d2 a7d4 a7f1 10940-10959 10ec5-10ec7 10efa-10efb 11b60-11b67",
    "11db0-11ddb 16ea0-16eb8 16ebb-16ed3 16ff2-16ff6 187f8-187ff 18d09-18d1e 18d80-18df2",
    "1e6c0-1e6de 1e6e0-1e6f5 1e6fe-1e6ff 2b73a-2b73f 2cea2-2cead 323b0-33479"]

/-- Whether a character is alphabetic. -/
def isAlphabetic (c : Char) : Bool :=
  Property.alphabetic.contains c || alphabetic.contains c

/-- Numbers of the latest version. -/
def numeric : CodeRanges := .ofRows [
    "11de0-11de9 16ff4-16ff6"]

/-- Whether a character is a letter or a number of any kind. -/
def isAlphanumeric (c : Char) : Bool :=
  isAlphabetic c || Category.anyHolds Category.numbers c || numeric.contains c

/-- Cased characters of the latest version. -/
def cased : CodeRanges := .ofRows [
    "a7ce-a7cf a7d2 a7d4 a7f1 16ea0-16eb8 16ebb-16ed3"]

/-- Whether a character is cased; the pharyngeal fricative no longer is. -/
def isCased (c : Char) : Bool :=
  (Property.cased.contains c && c != '\u0295') || cased.contains c

/-- Characters of the latest version that case ignores. -/
def caseIgnorable : CodeRanges := .ofRows [
    "1acf-1add 1ae0-1aeb a7f1 10ec5 10efa-10efb 11b60 11b62-11b64 11b66 11dd9 16ff2-16ff3",
    "1e6e3 1e6e6 1e6ee-1e6ef 1e6f5 1e6ff"]

/-- Whether case ignores a character. -/
def isCaseIgnorable (c : Char) : Bool :=
  Property.caseIgnorable.contains c || caseIgnorable.contains c

/-- Characters of the latest version that leave a mark of their own. -/
def visible : CodeRanges := .ofRows [
    "88f c5c cdc 20c1 2b96 a7ce-a7cf a7d2 a7d4 a7f1 fbc3-fbd2 fd90-fd91 fdc8-fdce",
    "10940-10959 10ec5-10ec7 10ed0-10ed8 11b61 11b65 11b67 11db0-11ddb 11de0-11de9",
    "16ea0-16eb8 16ebb-16ed3 16ff2-16ff6 187f8-187ff 18d09-18d1e 18d80-18df2 1ccfa-1ccfc",
    "1ceba-1ced0 1cee0-1cef0 1e6c0-1e6de 1e6e0-1e6e2 1e6e4-1e6e5 1e6e7-1e6ed 1e6f0-1e6f4",
    "1e6fe-1e6ff 1f6d8 1f777-1f77a 1f8d0-1f8d8 1fa54-1fa57 1fa8a 1fa8e 1fac8 1facd 1faea",
    "1faef 1fbfa 2b73a-2b73f 2cea2-2cead 323b0-33479"]

/-- Categories whose characters leave no mark of their own. -/
def invisibleCategories : List Category :=
  [.spaceSeparator, .lineSeparator, .paragraphSeparator] ++ Category.others

/-- Whether a character leaves a mark of its own. -/
def isVisible (c : Char) : Bool :=
  visible.contains c ||
    !(Property.graphemeExtend.contains c || Category.anyHolds invisibleCategories c)

end CardSearch.Text.Latest
