import Conform.Calendar.Date
import Conform.Calendar.DateTime
import Conform.Calendar.Iso
import Conform.Document.Basic
import Conform.Document.Fault
import Conform.Document.Json
import Conform.Document.Loading
import Conform.Document.Yaml.Block
import Conform.Document.Yaml.Graph
import Conform.Document.Yaml.Graph.Merge
import Conform.Document.Yaml.Graph.Reader
import Conform.Document.Yaml.Plain
import Conform.Document.Yaml.Property
import Conform.Document.Yaml.Quoted
import Conform.Document.Yaml.Reading
import Conform.Document.Yaml.Scalar
import Conform.Document.Yaml.Source
import Conform.Document.Yaml.Tag
import Conform.Document.Yaml.Token
import Conform.Document.Yaml.Token.Lexer
import Conform.Export.Declaration
import Conform.Export.JsonSchema
import Conform.Export.Name
import Conform.Export.Outline
import Conform.Number.Basic
import Conform.Number.Binary64
import Conform.Number.Numeral
import Conform.Number.Sexagesimal
import Conform.Number.Shortest
import Conform.Number.Spelled
import Conform.Options
import Conform.Path
import Conform.Pattern.Alternatives
import Conform.Pattern.Attempt
import Conform.Pattern.Basic
import Conform.Pattern.Capture
import Conform.Pattern.Catalogue
import Conform.Pattern.CharacterSet
import Conform.Pattern.Error
import Conform.Pattern.Escape
import Conform.Pattern.Flag
import Conform.Pattern.Letter
import Conform.Pattern.Match
import Conform.Pattern.Opening
import Conform.Pattern.Parser
import Conform.Pattern.Quantifier
import Conform.Pattern.Reader
import Conform.Pattern.Regex
import Conform.Pattern.Search
import Conform.Pattern.Single
import Conform.Pattern.Step
import Conform.Pattern.Token
import Conform.Proofs.AddedKeys
import Conform.Proofs.Agreement
import Conform.Proofs.Aside
import Conform.Proofs.CalendarEdge
import Conform.Proofs.Candidates
import Conform.Proofs.CanonicalForm
import Conform.Proofs.CaseTables
import Conform.Proofs.Casing
import Conform.Proofs.Choices
import Conform.Proofs.CleanCells
import Conform.Proofs.CleanWalks
import Conform.Proofs.Composition
import Conform.Proofs.Copies
import Conform.Proofs.DateBounds
import Conform.Proofs.DeclarationMeaning
import Conform.Proofs.DeclarationOrder
import Conform.Proofs.DeclaredResults
import Conform.Proofs.Descent
import Conform.Proofs.DescribedResults
import Conform.Proofs.DistinctNames
import Conform.Proofs.DocumentMeaning
import Conform.Proofs.Encounters
import Conform.Proofs.Endings
import Conform.Proofs.FailFast
import Conform.Proofs.Failures
import Conform.Proofs.Findings
import Conform.Proofs.Given
import Conform.Proofs.InStep
import Conform.Proofs.InjectedDefaults
import Conform.Proofs.KeyOrder
import Conform.Proofs.LeastMarks
import Conform.Proofs.Markers
import Conform.Proofs.Marking
import Conform.Proofs.Members
import Conform.Proofs.MoreMarks
import Conform.Proofs.NestedUnions
import Conform.Proofs.NoMarks
import Conform.Proofs.NodeDocuments
import Conform.Proofs.Notes
import Conform.Proofs.NumberDocuments
import Conform.Proofs.Ordinals
import Conform.Proofs.PathTexts
import Conform.Proofs.PlainResults
import Conform.Proofs.PromisedKeys
import Conform.Proofs.Pruning
import Conform.Proofs.Remarking
import Conform.Proofs.ReorderedCells
import Conform.Proofs.ReorderedWalks
import Conform.Proofs.Reordering
import Conform.Proofs.Repetition
import Conform.Proofs.Routes
import Conform.Proofs.Rules
import Conform.Proofs.Search
import Conform.Proofs.Settled
import Conform.Proofs.SideBySide
import Conform.Proofs.Sorting
import Conform.Proofs.Substitution
import Conform.Proofs.Timeline
import Conform.Proofs.UnionsAgain
import Conform.Proofs.UniqueFit
import Conform.Proofs.UnknownKeys
import Conform.Proofs.Unshared
import Conform.Schema.Basic
import Conform.Schema.Coercion
import Conform.Schema.Issue
import Conform.Schema.Location
import Conform.Schema.Reading
import Conform.Schema.Sharing
import Conform.Schema.Unsupported
import Conform.Text.Base64
import Conform.Text.Blank
import Conform.Text.Casing
import Conform.Text.Identifier
import Conform.Text.Name
import Conform.Text.Quoted
import Conform.Text.Ranges
import Conform.Text.Table.Casing
import Conform.Text.Table.Identifier
import Conform.Text.Table.Name.Ancient
import Conform.Text.Table.Name.Brahmic
import Conform.Text.Table.Name.Cuneiform
import Conform.Text.Table.Name.EastAsian
import Conform.Text.Table.Name.Emblem
import Conform.Text.Table.Name.European
import Conform.Text.Table.Name.Extended
import Conform.Text.Table.Name.Further
import Conform.Text.Table.Name.Indic
import Conform.Text.Table.Name.Minority
import Conform.Text.Table.Name.Notation
import Conform.Text.Table.Name.Operator
import Conform.Text.Table.Name.Pictograph
import Conform.Text.Table.Name.Presentation
import Conform.Text.Table.Name.Punctuation
import Conform.Text.Table.Name.Run
import Conform.Text.Table.Name.Semitic
import Conform.Text.Table.Name.Shape
import Conform.Text.Table.Name.Shorthand
import Conform.Text.Table.Name.Syllabic
import Conform.Text.Table.Printable
import Conform.Text.Table.Word
import Conform.Text.Unit
import Conform.Validation.Check
import Conform.Validation.Seeding
import Conform.Validation.Shared
import Conform.Validation.Validator
import Conform.Validation.Walk
import Conform.Value.Basic
import Conform.Value.Display
import Conform.Value.Edit
import Conform.Value.Instant
import Conform.Value.Linked
import Conform.Value.Plain
import Conform.Value.Sorted
import Conform.Violation.Basic
import Conform.Violation.Message
import Conform.Violation.Rule
