import Rollout.Condition.Basic
import Rollout.Condition.Percent
import Rollout.Condition.Reader
import Rollout.Condition.Verdict
import Rollout.Config.Basic
import Rollout.Config.Defaults
import Rollout.Config.Response
import Rollout.Context
import Rollout.Digest.Sha256
import Rollout.Entries
import Rollout.Failure
import Rollout.Fault
import Rollout.Json.Basic
import Rollout.Json.Display
import Rollout.Json.Key
import Rollout.Json.Numeric
import Rollout.Json.Reader
import Rollout.Json.Writer
import Rollout.Number.Binary64
import Rollout.Number.Numeral
import Rollout.Number.Shortest
import Rollout.Pattern.Basic
import Rollout.Pattern.CharTest
import Rollout.Pattern.Escape
import Rollout.Pattern.Marks
import Rollout.Pattern.Matcher
import Rollout.Pattern.Reader
import Rollout.Pattern.Scanner
import Rollout.Pattern.Search
import Rollout.Percentile
import Rollout.Proofs.Condition.Bare
import Rollout.Proofs.Condition.Combination
import Rollout.Proofs.Condition.Dependence
import Rollout.Proofs.Condition.Depth
import Rollout.Proofs.Condition.Encodable
import Rollout.Proofs.Condition.Faults
import Rollout.Proofs.Condition.Malformed
import Rollout.Proofs.Condition.Partition
import Rollout.Proofs.Condition.Reading
import Rollout.Proofs.Condition.Respelling
import Rollout.Proofs.Condition.Tree
import Rollout.Proofs.Condition.Widening
import Rollout.Proofs.Condition.Withholding
import Rollout.Proofs.Config.Defaults
import Rollout.Proofs.Config.Delivery
import Rollout.Proofs.Config.Priority
import Rollout.Proofs.Config.Relevance
import Rollout.Proofs.Config.Resolution
import Rollout.Proofs.Config.Shape
import Rollout.Proofs.Config.Stability
import Rollout.Proofs.Config.Totality
import Rollout.Proofs.Context.Lookup
import Rollout.Proofs.Json.Distinct
import Rollout.Proofs.Json.Legible
import Rollout.Proofs.Json.Plain
import Rollout.Proofs.Json.RoundTrip
import Rollout.Proofs.Json.Text
import Rollout.Proofs.Json.Walk
import Rollout.Proofs.Number.Conversion
import Rollout.Proofs.Number.Digits
import Rollout.Proofs.Number.IntegerText
import Rollout.Proofs.Number.Overflow
import Rollout.Proofs.Number.Spelling
import Rollout.Proofs.Pattern.Literal
import Rollout.Proofs.Session.History
import Rollout.Proofs.Session.Reopening
import Rollout.Proofs.Signal.FaultKind
import Rollout.Proofs.Signal.Faults
import Rollout.Proofs.Signal.IntegerOrder
import Rollout.Proofs.Signal.NumberOrder
import Rollout.Proofs.Signal.PatternSearch
import Rollout.Proofs.Signal.Relation
import Rollout.Proofs.Signal.TextSearch
import Rollout.Proofs.Signal.Version
import Rollout.Proofs.Signal.VersionOrder
import Rollout.Proofs.Template.Acceptance
import Rollout.Proofs.Template.Edit
import Rollout.Proofs.Template.Grammar
import Rollout.Proofs.Template.Irrelevance
import Rollout.Proofs.Template.Role
import Rollout.Proofs.Template.Violation
import Rollout.Proofs.Text.CaseVariant
import Rollout.Proofs.Text.Trim
import Rollout.Proofs.Until
import Rollout.Proofs.Value.Numerals
import Rollout.Proofs.Value.Words
import Rollout.Session
import Rollout.Signal.Comparison
import Rollout.Signal.Operator
import Rollout.Signal.Version
import Rollout.Template.Basic
import Rollout.Template.Parameter
import Rollout.Template.ParameterValue
import Rollout.Text.Blank
import Rollout.Text.CharacterName
import Rollout.Text.CharacterName.Aegean
import Rollout.Text.CharacterName.African
import Rollout.Text.CharacterName.Aliases
import Rollout.Text.CharacterName.American
import Rollout.Text.CharacterName.Basic
import Rollout.Text.CharacterName.Brahmic
import Rollout.Text.CharacterName.Cuneiform
import Rollout.Text.CharacterName.EastAsian
import Rollout.Text.CharacterName.European
import Rollout.Text.CharacterName.Hangul
import Rollout.Text.CharacterName.Indic
import Rollout.Text.CharacterName.Latin
import Rollout.Text.CharacterName.Mathematical
import Rollout.Text.CharacterName.MiddleEastern
import Rollout.Text.CharacterName.Notation
import Rollout.Text.CharacterName.Pictographs
import Rollout.Text.CharacterName.Series
import Rollout.Text.CharacterName.SoutheastAsian
import Rollout.Text.CharacterName.Symbols
import Rollout.Text.Digit
import Rollout.Text.Hexadecimal
import Rollout.Text.LetterCase
import Rollout.Text.Printable
import Rollout.Text.Quoted
import Rollout.Text.Ranges
import Rollout.Text.Search
import Rollout.Text.Stray
import Rollout.Text.Word
import Rollout.Value
