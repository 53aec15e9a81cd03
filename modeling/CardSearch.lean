import CardSearch.Main
import CardSearch.Proofs.Scan
import CardSearch.Proofs.Readings
import CardSearch.Proofs.Directives
import CardSearch.Proofs.Matchers
import CardSearch.Proofs.QueryText
import CardSearch.Proofs.Conjunction
import CardSearch.Proofs.Alternatives
import CardSearch.Proofs.FieldTerms
import CardSearch.Proofs.Quoting
import CardSearch.Proofs.Paging
import CardSearch.Proofs.LiteralPatterns
import CardSearch.Proofs.Negation
import CardSearch.Proofs.LiteralRoom
import CardSearch.Proofs.Words
import CardSearch.Proofs.TermsInOrder
import CardSearch.Proofs.AcceptedPatterns
import CardSearch.Proofs.InstantText
import CardSearch.Proofs.DueQueries
import CardSearch.Proofs.Sorting
import CardSearch.Proofs.Selections
import CardSearch.Proofs.StoreOrder
import CardSearch.Proofs.HiddenValues
import CardSearch.Proofs.TomlText
import CardSearch.Proofs.SettingsFile
import CardSearch.Proofs.SettingsHistory
import CardSearch.Proofs.Tokens
import CardSearch.Proofs.KeptText
import CardSearch.Proofs.ReviewLabels
import CardSearch.Proofs.SearchDefaults
import CardSearch.Proofs.EscapedValues
import CardSearch.Proofs.TermParts
import CardSearch.Proofs.Rounding
import CardSearch.Proofs.IntegerOrder
import CardSearch.Proofs.Shortcuts
import CardSearch.Proofs.ConditionMeaning
import CardSearch.Proofs.SharedFields
import CardSearch.Proofs.FieldOrder
import CardSearch.Proofs.Walks
import CardSearch.Proofs.IntegerKeys
import CardSearch.Proofs.Spans
import CardSearch.Proofs.InstantOrder
import CardSearch.Proofs.SignedYears
import CardSearch.Proofs.Deadlines
import CardSearch.Proofs.MatchingPair
import CardSearch.Proofs.OuterBrackets
import CardSearch.Proofs.TextLines
import CardSearch.Proofs.PageWindows
import CardSearch.Proofs.QuotedText
import CardSearch.Proofs.QueryTrees
import CardSearch.Proofs.TableRows
import CardSearch.Proofs.Suggestions
import CardSearch.Proofs.Nesting
