import ApiScreens.Api.Build
import ApiScreens.Api.Declaration
import ApiScreens.Api.Grouping
import ApiScreens.Api.Method
import ApiScreens.Api.Model
import ApiScreens.Api.PathTemplate
import ApiScreens.Chat.Basic
import ApiScreens.Chat.Http
import ApiScreens.Chat.Status
import ApiScreens.CommandLine.Arguments
import ApiScreens.CommandLine.Error
import ApiScreens.CommandLine.Host
import ApiScreens.CommandLine.Run
import ApiScreens.CommandLine.Workspace
import ApiScreens.Compilation.Artifact
import ApiScreens.Compilation.Resolved
import ApiScreens.Diagnostic
import ApiScreens.Digest.Sha256
import ApiScreens.Distinct
import ApiScreens.Document.Canonical
import ApiScreens.Document.Reference
import ApiScreens.Document.Source
import ApiScreens.Document.Subset
import ApiScreens.Json.Basic
import ApiScreens.Json.Number
import ApiScreens.Json.Pointer
import ApiScreens.Json.Printer
import ApiScreens.Json.Reader
import ApiScreens.Json.Record
import ApiScreens.Keyed
import ApiScreens.Main
import ApiScreens.Metrics.Call
import ApiScreens.Metrics.Log
import ApiScreens.Metrics.Shared
import ApiScreens.Metrics.Timestamp
import ApiScreens.Number.Decimal
import ApiScreens.Number.Double
import ApiScreens.Plan.Basic
import ApiScreens.Plan.Normalize
import ApiScreens.Plan.Shown
import ApiScreens.Plan.Validate
import ApiScreens.Planner.Basic
import ApiScreens.Planner.Budget
import ApiScreens.Planner.LanguageModel
import ApiScreens.Planner.Prompt
import ApiScreens.Planner.Reply
import ApiScreens.Planner.Script
import ApiScreens.Proofs.Api.Correspondence
import ApiScreens.Proofs.Api.Declarations
import ApiScreens.Proofs.Api.DisplayName
import ApiScreens.Proofs.Api.Partition
import ApiScreens.Proofs.Api.WrittenModel
import ApiScreens.Proofs.CommandLine.Containment
import ApiScreens.Proofs.CommandLine.Outputs
import ApiScreens.Proofs.CommandLine.Places
import ApiScreens.Proofs.CommandLine.Steps
import ApiScreens.Proofs.CommandLine.WrittenPaths
import ApiScreens.Proofs.Compilation.ContentAddress
import ApiScreens.Proofs.Compilation.Stages
import ApiScreens.Proofs.Digest.HashedBytes
import ApiScreens.Proofs.Distinct
import ApiScreens.Proofs.Document.CanonicalForm
import ApiScreens.Proofs.Document.CanonicalOrder
import ApiScreens.Proofs.Document.CanonicalParts
import ApiScreens.Proofs.Document.CombiningKeywords
import ApiScreens.Proofs.Document.FaultPlaces
import ApiScreens.Proofs.Document.Faults
import ApiScreens.Proofs.Document.Inlining
import ApiScreens.Proofs.Document.LeftoverReferences
import ApiScreens.Proofs.Document.PathwiseValidation
import ApiScreens.Proofs.Document.ReferenceChains
import ApiScreens.Proofs.Document.Resolution
import ApiScreens.Proofs.Document.ResolvedRules
import ApiScreens.Proofs.Document.ResolvedTree
import ApiScreens.Proofs.Document.Rules
import ApiScreens.Proofs.Document.SchemaGraph
import ApiScreens.Proofs.Document.SchemaScan
import ApiScreens.Proofs.Document.SortingLaws
import ApiScreens.Proofs.Document.Unfolding
import ApiScreens.Proofs.Document.Validation
import ApiScreens.Proofs.Json.Addresses
import ApiScreens.Proofs.Json.CompactText
import ApiScreens.Proofs.Json.IndentedText
import ApiScreens.Proofs.Json.Location
import ApiScreens.Proofs.Json.NumberText
import ApiScreens.Proofs.Json.Pruning
import ApiScreens.Proofs.Json.ReadBack
import ApiScreens.Proofs.Json.RecordForm
import ApiScreens.Proofs.Json.Replacement
import ApiScreens.Proofs.Json.Scan
import ApiScreens.Proofs.Json.StringText
import ApiScreens.Proofs.Json.Tree
import ApiScreens.Proofs.Json.WrittenRecord
import ApiScreens.Proofs.Metrics.Delivery
import ApiScreens.Proofs.Metrics.Lines
import ApiScreens.Proofs.Metrics.Log
import ApiScreens.Proofs.Number.DecimalText
import ApiScreens.Proofs.Number.Nearest
import ApiScreens.Proofs.Number.Shortest
import ApiScreens.Proofs.Number.TotalOrder
import ApiScreens.Proofs.Number.Whole
import ApiScreens.Proofs.Outcome
import ApiScreens.Proofs.Plan.Acceptance
import ApiScreens.Proofs.Plan.Denotation
import ApiScreens.Proofs.Plan.FieldLists
import ApiScreens.Proofs.Plan.NormalForm
import ApiScreens.Proofs.Plan.Rearrangement
import ApiScreens.Proofs.Plan.StoredForm
import ApiScreens.Proofs.Plan.WrittenPlan
import ApiScreens.Proofs.Planner.Budget
import ApiScreens.Proofs.Planner.DerivedPlan
import ApiScreens.Proofs.Planner.DerivedScreens
import ApiScreens.Proofs.Planner.Fences
import ApiScreens.Proofs.Planner.Pieces
import ApiScreens.Proofs.Planner.Request
import ApiScreens.Proofs.Planner.Retries
import ApiScreens.Proofs.Pointwise
import ApiScreens.Proofs.Schema.Agreement
import ApiScreens.Proofs.Schema.Choices
import ApiScreens.Proofs.Schema.Forms
import ApiScreens.Proofs.Schema.Merging
import ApiScreens.Proofs.Schema.Occurrences
import ApiScreens.Proofs.Screen.Composition
import ApiScreens.Proofs.Screen.Correspondence
import ApiScreens.Proofs.Screen.Labels
import ApiScreens.Proofs.Screen.Lowering
import ApiScreens.Proofs.Screen.PlanNoise
import ApiScreens.Proofs.Screen.Validity
import ApiScreens.Proofs.Sorting
import ApiScreens.Proofs.Text.DigitRuns
import ApiScreens.Proofs.Text.Lowercase
import ApiScreens.Proofs.Text.NaturalOrder
import ApiScreens.Proofs.Text.Slug
import ApiScreens.Proofs.Text.SlugGroups
import ApiScreens.Proofs.Text.Title
import ApiScreens.Proofs.Yaml.Conversion
import ApiScreens.Schema.Field
import ApiScreens.Schema.Flatten
import ApiScreens.Screen.Basic
import ApiScreens.Screen.Lowering
import ApiScreens.Settings.Basic
import ApiScreens.Settings.Reader
import ApiScreens.Text.Blank
import ApiScreens.Text.Case
import ApiScreens.Text.Category
import ApiScreens.Text.CategoryTable
import ApiScreens.Text.CombiningTable
import ApiScreens.Text.Composed
import ApiScreens.Text.Digit
import ApiScreens.Text.LowercaseTable
import ApiScreens.Text.Natural
import ApiScreens.Text.Quoted
import ApiScreens.Text.Run
import ApiScreens.Text.Slug
import ApiScreens.Text.Split
import ApiScreens.Text.UppercaseTable
import ApiScreens.Text.Utf8
import ApiScreens.Url.Address
import ApiScreens.Url.Basic
import ApiScreens.Url.Domain
import ApiScreens.Url.DomainTable
import ApiScreens.Url.Escape
import ApiScreens.Url.Host
import ApiScreens.Url.Label
import ApiScreens.Url.LabelTable
import ApiScreens.Url.Path
import ApiScreens.Url.Punycode
import ApiScreens.Yaml.Node
import ApiScreens.Yaml.Record
import ApiScreens.Yaml.Resolved
import ApiScreens.Yaml.Spot
import ApiScreens.Yaml.Tag
import ApiScreens.Yaml.ToJson
import ApiScreens.Yaml.Token
import ApiScreens.Yaml.Token.Lexer
import ApiScreens.Yaml.Token.Scalar
import ApiScreens.Yaml.Token.Tag
import ApiScreens.Yaml.Value
