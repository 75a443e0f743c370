import TestDesign.Assembly.Diagnostic
import TestDesign.Assembly.Draft
import TestDesign.Assembly.PreTestCase
import TestDesign.Assembly.Session
import TestDesign.Assembly.Settings
import TestDesign.Assembly.Survey
import TestDesign.Calendar.Date
import TestDesign.Calendar.Stored
import TestDesign.Calendar.Text
import TestDesign.Calendar.Time
import TestDesign.Data.Case
import TestDesign.Data.Constraints
import TestDesign.Data.Error
import TestDesign.Data.Generate
import TestDesign.Data.Verdict
import TestDesign.Decimal.Double
import TestDesign.Decimal.Hexadecimal
import TestDesign.Decimal.Reading
import TestDesign.Decimal.Shortest
import TestDesign.Document.Element
import TestDesign.Document.Lookup
import TestDesign.Document.Step
import TestDesign.Json.Dictionaries
import TestDesign.Json.Documents
import TestDesign.Json.Plans
import TestDesign.Json.Reader
import TestDesign.Json.Settings
import TestDesign.Json.Shape
import TestDesign.Json.Tree
import TestDesign.Keyed
import TestDesign.Pattern.Expr
import TestDesign.Pattern.Format
import TestDesign.Pattern.Language
import TestDesign.Pattern.Limits
import TestDesign.Pattern.Match
import TestDesign.Pattern.Ranges
import TestDesign.Pattern.Sample
import TestDesign.Pattern.Scan
import TestDesign.Pattern.Simplify
import TestDesign.Pattern.Token
import TestDesign.Pattern.Tree
import TestDesign.Plan.Analysis
import TestDesign.Plan.Basic
import TestDesign.Plan.Combination
import TestDesign.Plan.Mix
import TestDesign.Plan.Planner
import TestDesign.Power
import TestDesign.Proofs.AnchoredPatterns
import TestDesign.Proofs.AnchoredScans
import TestDesign.Proofs.BoundaryOrder
import TestDesign.Proofs.CalendarBounds
import TestDesign.Proofs.CalendarNumbers
import TestDesign.Proofs.CalendarOrder
import TestDesign.Proofs.CalendarTexts
import TestDesign.Proofs.CaseOutcomes
import TestDesign.Proofs.CharacterRanges
import TestDesign.Proofs.Compositional
import TestDesign.Proofs.Courses
import TestDesign.Proofs.DeclaredIntegers
import TestDesign.Proofs.Diagnostics
import TestDesign.Proofs.Drafting
import TestDesign.Proofs.Draws
import TestDesign.Proofs.ElementNames
import TestDesign.Proofs.EmptyTexts
import TestDesign.Proofs.EntityPlaces
import TestDesign.Proofs.ExternalValues
import TestDesign.Proofs.FillSentences
import TestDesign.Proofs.FilledElements
import TestDesign.Proofs.GivenValues
import TestDesign.Proofs.IncompatibleCases
import TestDesign.Proofs.IntegerCases
import TestDesign.Proofs.InvalidCases
import TestDesign.Proofs.InvalidFills
import TestDesign.Proofs.KeptSteps
import TestDesign.Proofs.KeptValid
import TestDesign.Proofs.MixedPlans
import TestDesign.Proofs.NameSpellings
import TestDesign.Proofs.NumberSets
import TestDesign.Proofs.Numerals
import TestDesign.Proofs.OtherwiseKeywords
import TestDesign.Proofs.PatternTrees
import TestDesign.Proofs.PlannedCases
import TestDesign.Proofs.Preparations
import TestDesign.Proofs.QuotedReferences
import TestDesign.Proofs.QuotedTexts
import TestDesign.Proofs.RandomSources
import TestDesign.Proofs.ReadPatterns
import TestDesign.Proofs.ReadableFills
import TestDesign.Proofs.Reading
import TestDesign.Proofs.RecognizedSteps
import TestDesign.Proofs.RefusedRanges
import TestDesign.Proofs.RepeatedRuns
import TestDesign.Proofs.Reports
import TestDesign.Proofs.RewrittenSteps
import TestDesign.Proofs.SampledTexts
import TestDesign.Proofs.Scanning
import TestDesign.Proofs.Segments
import TestDesign.Proofs.SeparatePlans
import TestDesign.Proofs.SharedValues
import TestDesign.Proofs.SmallSpellings
import TestDesign.Proofs.SpelledValues
import TestDesign.Proofs.SpliceLoop
import TestDesign.Proofs.StepIndexes
import TestDesign.Proofs.StepOutlines
import TestDesign.Proofs.StepRanges
import TestDesign.Proofs.SteppedValues
import TestDesign.Proofs.TextMatching
import TestDesign.Proofs.TidySessions
import TestDesign.Proofs.Transcript
import TestDesign.Proofs.UnreadReports
import TestDesign.Proofs.ValidLengths
import TestDesign.Proofs.ValueEvents
import TestDesign.Proofs.ValueReferences
import TestDesign.Proofs.ViolationChecks
import TestDesign.Random.Digest
import TestDesign.Random.Draw
import TestDesign.Random.Stream
import TestDesign.Range.Reals
import TestDesign.Range.Steps
import TestDesign.Range.Values
import TestDesign.Scenario.Expectation
import TestDesign.Scenario.Run
import TestDesign.Sentence.Dictionary
import TestDesign.Sentence.Recognition
import TestDesign.Sentence.Rendering
import TestDesign.Text.Blank
import TestDesign.Text.CaseMap
import TestDesign.Text.Casing
import TestDesign.Text.Folding
import TestDesign.Text.Letters
import TestDesign.Text.Numbers
import TestDesign.Text.Offset
import TestDesign.Text.Table
import TestDesign.Text.WordCharacters
import TestDesign.Text.Words
import TestDesign.Value.Basic
import TestDesign.Value.Conversion
import TestDesign.Value.Kind
