import AddonConfig.Command.Outcome
import AddonConfig.Command.Request
import AddonConfig.Decode.Basic
import AddonConfig.Decode.Error
import AddonConfig.Decode.Record
import AddonConfig.Endpoint.Basic
import AddonConfig.Endpoint.Printer
import AddonConfig.Json.Basic
import AddonConfig.Json.Edit
import AddonConfig.Json.Located
import AddonConfig.Json.Pointer
import AddonConfig.Json.Printer
import AddonConfig.Json.Reader
import AddonConfig.Main
import AddonConfig.Model.Basic
import AddonConfig.Model.Decode
import AddonConfig.Model.Encode
import AddonConfig.Model.Shape
import AddonConfig.Note
import AddonConfig.Number.Binary64
import AddonConfig.Number.Decimal
import AddonConfig.Number.Numeral
import AddonConfig.Pattern.CharSet
import AddonConfig.Pattern.Expr
import AddonConfig.Pattern.LetterSets
import AddonConfig.Pattern.Parser
import AddonConfig.Pattern.Plain
import AddonConfig.Pattern.Property
import AddonConfig.Pattern.PropertyNames
import AddonConfig.Pattern.Validity
import AddonConfig.Proofs.Acceptance
import AddonConfig.Proofs.Checks
import AddonConfig.Rules.Agenda
import AddonConfig.Rules.Config
import AddonConfig.Rules.Defect
import AddonConfig.Rules.Duplicates
import AddonConfig.Rules.Entity
import AddonConfig.Rules.Handler
import AddonConfig.Rules.Menu
import AddonConfig.Schema.Basic
import AddonConfig.Schema.Document
import AddonConfig.Source.Format
import AddonConfig.Source.Load
import AddonConfig.Source.Path
import AddonConfig.Text.Alphanumeric
import AddonConfig.Text.CaseTables
import AddonConfig.Text.Charset
import AddonConfig.Text.Digits
import AddonConfig.Text.LowerCase
import AddonConfig.Text.PrintableTables
import AddonConfig.Text.Quoted
import AddonConfig.Yaml.Cursor
import AddonConfig.Yaml.Datum
import AddonConfig.Yaml.Linked
import AddonConfig.Yaml.Node
import AddonConfig.Yaml.Scalar
import AddonConfig.Yaml.Scanner
import AddonConfig.Yaml.Shape
import AddonConfig.Yaml.Tag
import AddonConfig.Yaml.Token
import AddonConfig.Yaml.Untyped
import AddonConfig.Yaml.Value
import AddonConfig.Proofs.FirstDefect
import AddonConfig.Proofs.EndpointNames
import AddonConfig.Proofs.SortedMembers
import AddonConfig.Proofs.Records
import AddonConfig.Proofs.ReadBack
import AddonConfig.Proofs.Violations
import AddonConfig.Proofs.SchemaGuard
import AddonConfig.Proofs.DecodedParts
import AddonConfig.Proofs.WrittenDocument
import AddonConfig.Proofs.JsonGrammar
import AddonConfig.Proofs.FlowScalars
import AddonConfig.Proofs.FlowTokens
import AddonConfig.Proofs.FlowScanner
import AddonConfig.Proofs.FlowNodes
import AddonConfig.Proofs.Numerals
import AddonConfig.Proofs.ShortNumerals
import AddonConfig.Proofs.JsonThroughYaml
import AddonConfig.Proofs.PointerText
import AddonConfig.Proofs.SpanIndex
import AddonConfig.Proofs.ViolationSpans
import AddonConfig.Proofs.OauthEntities
import AddonConfig.Proofs.PlannedModels
import AddonConfig.Proofs.MenuEntries
import AddonConfig.Proofs.Reordering
import AddonConfig.Proofs.AddedService
import AddonConfig.Proofs.Calls
import AddonConfig.Proofs.ConfNames
import AddonConfig.Proofs.RelatedRecords
import AddonConfig.Proofs.UndeclaredMembers
import AddonConfig.Proofs.UnreadMembers
import AddonConfig.Proofs.FewerChoices
import AddonConfig.Proofs.FloatsRead
import AddonConfig.Proofs.NumberRanges
import AddonConfig.Proofs.KeptOptions
import AddonConfig.Proofs.RepeatedKeys
import AddonConfig.Proofs.DemandedParameters
import AddonConfig.Proofs.ShownPaths
