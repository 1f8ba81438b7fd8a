import QueryRows.Bag
import QueryRows.Calendar
import QueryRows.Calendar.Pattern
import QueryRows.Class
import QueryRows.Class.Builder
import QueryRows.Class.Generic
import QueryRows.Coercion
import QueryRows.Coercion.Cache
import QueryRows.Command
import QueryRows.Command.Flag
import QueryRows.Command.Help
import QueryRows.Command.Load
import QueryRows.Command.Report
import QueryRows.Command.Request
import QueryRows.Command.Run
import QueryRows.FieldType
import QueryRows.Fill.Call
import QueryRows.Fill.Compile
import QueryRows.Fill.Path
import QueryRows.Fill.Plan
import QueryRows.Folder
import QueryRows.Json
import QueryRows.Json.Exchange
import QueryRows.Json.Layout
import QueryRows.Json.Numeral
import QueryRows.Json.Quoted
import QueryRows.Json.Syntax
import QueryRows.Kind
import QueryRows.Main
import QueryRows.Mapper
import QueryRows.Mapping
import QueryRows.Mapping.Memory
import QueryRows.Mapping.Run
import QueryRows.Mapping.Window
import QueryRows.Metadata
import QueryRows.NameMap
import QueryRows.Number.Decimal
import QueryRows.Number.FloatText
import QueryRows.Number.Numeral
import QueryRows.Number.Shortest
import QueryRows.Object
import QueryRows.Record
import QueryRows.Relation
import QueryRows.Statement
import QueryRows.Statement.Config
import QueryRows.Statement.File
import QueryRows.Statement.Values
import QueryRows.Template
import QueryRows.Template.Literal
import QueryRows.Template.Lookup
import QueryRows.Template.ObjectSource
import QueryRows.Template.Segment
import QueryRows.Template.Token
import QueryRows.Text.Blank
import QueryRows.Text.CamelCase
import QueryRows.Text.Case
import QueryRows.Text.CaseTables
import QueryRows.Text.Hex
import QueryRows.Text.Letter
import QueryRows.Text.LetterTables
import QueryRows.Text.Shown
import QueryRows.Text.Span
import QueryRows.Text.Split
import QueryRows.Text.Utf8
import QueryRows.TextTable
import QueryRows.Value
import QueryRows.Yaml.Glyph
import QueryRows.Yaml.Layout
import QueryRows.Yaml.Meaning
import QueryRows.Yaml.Node
import QueryRows.Yaml.Scalar
import QueryRows.Yaml.Token
import QueryRows.Proofs.Trimming
import QueryRows.Proofs.TemplateText
import QueryRows.Proofs.RunWindow
import QueryRows.Proofs.CachedRules
import QueryRows.Proofs.FieldMemory
import QueryRows.Proofs.History
import QueryRows.Proofs.Gathering
import QueryRows.Proofs.RowTypes
import QueryRows.Proofs.ValueEquality
import QueryRows.Proofs.RowRuns
import QueryRows.Proofs.Results
import QueryRows.Proofs.PlainText
import QueryRows.Proofs.Quoting
import QueryRows.Proofs.ConversionTable
import QueryRows.Proofs.CacheCalls
import QueryRows.Proofs.FillerCalls
import QueryRows.Proofs.FirstOccurrences
import QueryRows.Proofs.Compilations
import QueryRows.Proofs.CollectionElements
import QueryRows.Proofs.Columns
import QueryRows.Proofs.BagRows
import QueryRows.Proofs.Substitution
import QueryRows.Proofs.JsonRows
import QueryRows.Proofs.PropertyPaths
import QueryRows.Proofs.SentTexts
import QueryRows.Proofs.MapPlans
import QueryRows.Proofs.DelimiterPairs
import QueryRows.Proofs.Overloads
import QueryRows.Proofs.FirstFailure
import QueryRows.Proofs.PerField
import QueryRows.Proofs.MemberNames
import QueryRows.Proofs.UnplannedFields
import QueryRows.Proofs.Stores
import QueryRows.Proofs.FieldOrder
import QueryRows.Proofs.DigitTexts
import QueryRows.Proofs.WholeNumbers
import QueryRows.Proofs.PatternReading
import QueryRows.Proofs.PatternTexts
import QueryRows.Proofs.DateTexts
import QueryRows.Proofs.FilledPaths
import QueryRows.Proofs.NamedConstants
import QueryRows.Proofs.PaddedTexts
import QueryRows.Proofs.CallTexts
import QueryRows.Proofs.LiteralReading
import QueryRows.Proofs.DottedNames
import QueryRows.Proofs.AlignedColumns
import QueryRows.Proofs.EntryOrder
import QueryRows.Proofs.MergedRows
import QueryRows.Proofs.TokenOrder
