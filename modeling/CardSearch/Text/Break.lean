import CardSearch.Text.Property
import CardSearch.Text.Script

/-!
# Break classes

The classes by which the Unicode Standard cuts text into what a reader takes for
a character, into words and into sentences. Most of them are derived from
categories, properties and scripts, with a table for what is added or left out.
Characters without a class of their own make up the class Other, which patterns
cannot name.
-/

namespace CardSearch.Text.Break

/-! ## Classes that divisions share -/

/-- Carriage return, line feed and the joiner are each a class of its own. -/
def carriageReturn : CodeRanges := .ofRows ["d"]

def lineFeed : CodeRanges := .ofRows ["a"]

def joiner : CodeRanges := .ofRows ["200d"]

/-! ## Grapheme clusters -/

/-- Marks and what acts like one: the character before them goes on. -/
def extend : CodeRanges := Property.graphemeExtend.union Property.emojiModifier

/-- Controls that are not visible and not part of a cluster. -/
def control : CodeRanges :=
  .diff
    (.unions [Category.union [.lineSeparator, .paragraphSeparator, .control, .format],
      Category.unassignedRanges.inter Property.defaultIgnorable])
    (.unions [carriageReturn, lineFeed, joiner, extend, Property.prependedConcatenationMark])

/-- Spacing marks of scripts in which they begin a cluster. -/
def spacingMarkExcluded : CodeRanges := .ofRows [
    "102b-102c 1038 1062-1064 1067-106d 1083 1087-108c 108f 109a-109c 1a61 1a63-1a64 aa7b",
    "aa7d 11720-11721"]

/-- Vowels that belong to the character before them. -/
def spacingMarkAdded : CodeRanges := .ofRows ["e33 eb3"]

/-- Marks that take space and belong to the character before them. -/
def spacingMark : CodeRanges :=
  ((Category.spacingMarkRanges.diff extend).diff spacingMarkExcluded).union spacingMarkAdded

/-- Consonants that belong to the character after them. -/
def prependAdded : CodeRanges := .ofRows [
    "d4e 111c2-111c3 113d1 1193f 11941 11a3a 11a84-11a89 11d46 11f02"]

/-- Characters that belong to the one after them. -/
def prepended : CodeRanges := Property.prependedConcatenationMark.union prependAdded

/-- Leading consonants, vowels and trailing consonants of syllables. -/
def leading : CodeRanges := .ofRows ["1100-115f a960-a97c"]

def vowel : CodeRanges := .ofRows ["1160-11a7 d7b0-d7c6 16d63 16d67-16d6a"]

def trailing : CodeRanges := .ofRows ["11a8-11ff d7cb-d7fb"]

/-- Syllables in one character: every 28th of them has no trailing consonant. -/
def openSyllable : CodeRanges := .ofCodes ((List.range 399).map fun i => 0xac00 + 28 * i)

def closedSyllable : CodeRanges := .diff (.ofRows ["ac00-d7a3"]) openSyllable

/-! ## Words -/

/-- Line breaks other than carriage return and line feed. -/
def newline : CodeRanges := .ofRows ["b-c 85 2028-2029"]

/-- Marks within words. -/
def wordExtend : CodeRanges := extend.union Category.spacingMarkRanges

/-- Format characters that words pass over. -/
def wordFormat : CodeRanges :=
  .diff Category.formatRanges
    (.unions [extend, joiner, .ofRows ["200b"], Property.prependedConcatenationMark])

/-- Katakana and the signs that repeat, voice or lengthen it. -/
def katakana : CodeRanges :=
  (Script.named "katakana").union (.ofRows ["3031-3035 309b-309c 30a0 30fc ff70"])

/-- Hebrew letters. -/
def hebrew : CodeRanges := (Script.named "hebrew").inter Category.otherLetterRanges

/-- Signs that count as letters in words. -/
def letterAdded : CodeRanges := .ofRows [
    "2c2-2c5 2d2-2d7 2de-2df 2e5-2eb 2ed 2ef-2ff 55a-55c 55e 58a 5f3 70f a708-a716",
    "a720-a721 a789-a78a ab5b"]

/-- Letters of scripts that put no spaces between words. -/
def letterExcluded : CodeRanges := .ofRows [
    "e01-e30 e32-e33 e40-e46 e81-e82 e84 e86-e8a e8c-ea3 ea5 ea7-eb0 eb2-eb3 ebd ec0-ec4",
    "ec6 edc-edf 1000-102a 103f 1050-1055 105a-105d 1061 1065-1066 106e-1070 1075-1081",
    "108e 1780-17b3 17d7 17dc 1950-196d 1970-1974 1980-19ab 19b0-19c9 1a20-1a54 1aa7",
    "a9e0-a9e4 a9e6-a9ef a9fa-a9fe aa60-aa76 aa7a aa7e-aaaf aab1 aab5-aab6 aab9-aabd aac0",
    "aac2 aadb-aadd 11700-1171a 11740-11746"]

/-- Letters of words that are not treated in a class of their own. -/
def wordLetter : CodeRanges :=
  .union letterAdded (.diff Property.alphabetic
    (.unions [Property.ideographic, katakana, Script.named "hiragana", hebrew, wordExtend,
      letterExcluded]))

/-- Digits and the marks that stand before numbers. -/
def wordNumber : CodeRanges :=
  .unions [Category.decimalNumberRanges, .ofRows ["66b 19da"],
    Property.prependedConcatenationMark.diff (.ofRows ["70f"])]

/-- Connectors, such as the low line, join words. -/
def connector : CodeRanges := Category.connectorPunctuationRanges.union (.ofRows ["202f"])

/-- Spaces at which a line may break. -/
def wordSpace : CodeRanges := Category.spaceSeparatorRanges.diff (.ofRows ["a0 2007 202f"])

/-- The quotation marks of ASCII, each a class of its own. -/
def singleQuote : CodeRanges := .ofRows ["27"]

def doubleQuote : CodeRanges := .ofRows ["22"]

/-- Marks between digits. -/
def midNumber : CodeRanges := .ofRows [
    "2c 3b 37e 589 60c-60d 66c 7f8 2044 fe50 fe54 ff0c ff1b"]

/-! ## Sentences -/

/-- Ends of paragraphs other than carriage return and line feed. -/
def separator : CodeRanges := .ofRows ["85 2028-2029"]

/-- Spaces within sentences. -/
def space : CodeRanges := Property.whiteSpace.diff (.unions [separator, carriageReturn, lineFeed])

/-- Marks within sentences. -/
def sentenceExtend : CodeRanges :=
  .unions [Property.graphemeExtend, Category.spacingMarkRanges, joiner]

/-- Format characters that sentences pass over. -/
def sentenceFormat : CodeRanges := wordFormat.union (.ofRows ["70f 200b"])

/-- Georgian letters of the usual kind, and their capitals, have no case in sentences. -/
def georgian : CodeRanges := .ofRows ["10d0-10fb 10fd-10ff 1c90-1cbf"]

def lower : CodeRanges := Property.lowercase.diff (Property.graphemeExtend.union georgian)

def upper : CodeRanges := (Property.uppercase.union Category.titlecaseLetterRanges).diff georgian

/-- Letters without case. -/
def otherLetter : CodeRanges :=
  .union (.ofRows ["5f3"])
    (Property.alphabetic.diff (.unions [lower, upper, sentenceExtend]))

/-- Digits and the marks of numbers. -/
def number : CodeRanges := wordNumber.union (.ofRows ["66c"])

/-- Full stops, which may also end an abbreviation, and other ends of sentences. -/
def fullStop : CodeRanges := .ofRows ["2e 2024 fe52 ff0e"]

def terminal : CodeRanges := Property.sentenceTerminal.diff fullStop

/-- Quotation marks that are not in a category of their own. -/
def closeAdded : CodeRanges := .ofRows [
    "22 27 275b-2760 2e00-2e01 2e06-2e08 2e0b 1f676-1f678"]

/-- Brackets and quotation marks. -/
def bracket : CodeRanges :=
  .union closeAdded (Category.union
    [.openPunctuation, .closePunctuation, .initialPunctuation, .finalPunctuation])

/-- Marks after which a sentence goes on. -/
def continuing : CodeRanges := .ofRows [
    "2c-2d 3a-3b 37e 55d 60c-60d 7f8 1802 1808 2013-2014 3001 fe10-fe11 fe13-fe14",
    "fe31-fe32 fe50-fe51 fe54-fe55 fe58 fe63 ff0c-ff0d ff1a-ff1b ff64"]

/-! ## Names -/

/-- The classes of grapheme clusters. -/
def graphemes : List Property := [
  ⟨["cr"], carriageReturn⟩,
  ⟨["lf"], lineFeed⟩,
  ⟨["zwj"], joiner⟩,
  ⟨["ri", "regionalindicator"], Property.regionalIndicator⟩,
  ⟨["cn", "control"], control⟩,
  ⟨["ex", "extend"], extend⟩,
  ⟨["sm", "spacingmark"], spacingMark⟩,
  ⟨["pp", "prepend"], prepended⟩,
  ⟨["l"], leading⟩,
  ⟨["v"], vowel⟩,
  ⟨["t"], trailing⟩,
  ⟨["lv"], openSyllable⟩,
  ⟨["lvt"], closedSyllable⟩]

/-- The classes of words. -/
def words : List Property := [
  ⟨["cr"], carriageReturn⟩,
  ⟨["lf"], lineFeed⟩,
  ⟨["zwj"], joiner⟩,
  ⟨["ri", "regionalindicator"], Property.regionalIndicator⟩,
  ⟨["nl", "newline"], newline⟩,
  ⟨["extend"], wordExtend⟩,
  ⟨["fo", "format"], wordFormat⟩,
  ⟨["ka", "katakana"], katakana⟩,
  ⟨["hl", "hebrewletter"], hebrew⟩,
  ⟨["le", "aletter"], wordLetter⟩,
  ⟨["nu", "numeric"], wordNumber⟩,
  ⟨["ex", "extendnumlet"], connector⟩,
  ⟨["wsegspace"], wordSpace⟩,
  ⟨["sq", "singlequote"], singleQuote⟩,
  ⟨["dq", "doublequote"], doubleQuote⟩,
  ⟨["ml", "midletter"], Property.midLetter⟩,
  ⟨["mb", "midnumlet"], Property.midNumberLetter⟩,
  ⟨["mn", "midnum"], midNumber⟩]

/-- The classes of sentences. -/
def sentences : List Property := [
  ⟨["cr"], carriageReturn⟩,
  ⟨["lf"], lineFeed⟩,
  ⟨["se", "sep"], separator⟩,
  ⟨["sp"], space⟩,
  ⟨["ex", "extend"], sentenceExtend⟩,
  ⟨["fo", "format"], sentenceFormat⟩,
  ⟨["lo", "lower"], lower⟩,
  ⟨["up", "upper"], upper⟩,
  ⟨["le", "oletter"], otherLetter⟩,
  ⟨["nu", "numeric"], number⟩,
  ⟨["at", "aterm"], fullStop⟩,
  ⟨["st", "sterm"], terminal⟩,
  ⟨["cl", "close"], bracket⟩,
  ⟨["sc", "scontinue"], continuing⟩]

/-- The characters of the class with a name among those of a division. -/
def ofName? (classes : List Property) (name : String) : Option CodeRanges :=
  (classes.find? (·.names.contains name)).map (·.characters)

end CardSearch.Text.Break
