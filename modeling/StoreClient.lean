import StoreClient.Bundle.Basic
import StoreClient.Bundle.Compile
import StoreClient.Bundle.Decoding
import StoreClient.Bundle.Encoding
import StoreClient.Catalog.Basic
import StoreClient.Catalog.Translation
import StoreClient.Client.Conversion
import StoreClient.Client.Member
import StoreClient.Client.Text
import StoreClient.Client.TypeText
import StoreClient.Client.View
import StoreClient.Collection.Basic
import StoreClient.Collection.Document
import StoreClient.Collection.Fault
import StoreClient.Disk.Basic
import StoreClient.Disk.FileTree
import StoreClient.Disk.Path
import StoreClient.Disk.Write
import StoreClient.Field.Codec
import StoreClient.Field.Declaration
import StoreClient.Field.Fault
import StoreClient.Field.Kind
import StoreClient.Field.Shape
import StoreClient.Field.ValueType
import StoreClient.Json.Basic
import StoreClient.Json.Decode
import StoreClient.Json.Draft
import StoreClient.Json.Printer
import StoreClient.Json.Scan
import StoreClient.JsonSchema.Bundle
import StoreClient.JsonSchema.Document
import StoreClient.JsonSchema.Rule
import StoreClient.Log.Basic
import StoreClient.Log.Filter
import StoreClient.Log.Printer
import StoreClient.Main
import StoreClient.Number.Basic
import StoreClient.Number.Double
import StoreClient.Number.Shortest
import StoreClient.Proofs.Compilation
import StoreClient.Proofs.DeclaredCollections
import StoreClient.Run.Arguments
import StoreClient.Run.Basic
import StoreClient.Run.Event
import StoreClient.Run.Program
import StoreClient.Run.Settings
import StoreClient.Run.Source
import StoreClient.Run.Task
import StoreClient.Sqlite.Catalog
import StoreClient.Sqlite.Page
import StoreClient.Sqlite.Record
import StoreClient.Template.Basic
import StoreClient.Template.Node
import StoreClient.Template.Render
import StoreClient.Template.Token
import StoreClient.Text.Blank
import StoreClient.Text.Case
import StoreClient.Text.CaseTable
import StoreClient.Text.Digits
import StoreClient.Text.HiddenTable
import StoreClient.Text.Identifier
import StoreClient.Text.Literal
import StoreClient.Text.MarkTable
import StoreClient.Text.Shown
import StoreClient.Text.Word
import StoreClient.Time.Calendar
import StoreClient.Time.Instant
import StoreClient.Toml.Basic
import StoreClient.Toml.Document
import StoreClient.Toml.Scalar
import StoreClient.Toml.Value
import StoreClient.Yaml.Cursor
import StoreClient.Yaml.Document
import StoreClient.Yaml.Node
import StoreClient.Yaml.Resolve
import StoreClient.Yaml.Scalar
import StoreClient.Yaml.Scan
import StoreClient.Yaml.Token
import StoreClient.Proofs.Acceptance
import StoreClient.Proofs.EntryKeys
import StoreClient.Proofs.StandIns
import StoreClient.Proofs.JsonText
import StoreClient.Proofs.Decoders
import StoreClient.Proofs.EntryText
import StoreClient.Proofs.SchemaText
import StoreClient.Proofs.ClientDeclarations
import StoreClient.Proofs.Expansions
import StoreClient.Proofs.ShapeOrder
import StoreClient.Proofs.DeclaredTypes
import StoreClient.Proofs.DeclarationOrder
import StoreClient.Proofs.CalendarDays
import StoreClient.Proofs.Digits
import StoreClient.Proofs.Timestamps
import StoreClient.Proofs.Literals
import StoreClient.Proofs.OneLine
import StoreClient.Proofs.ClientLines
import StoreClient.Proofs.TextLines
import StoreClient.Proofs.AlikeDocuments
import StoreClient.Proofs.LineBreaks
import StoreClient.Proofs.Members
import StoreClient.Proofs.FileTrees
import StoreClient.Proofs.MadeDirectories
import StoreClient.Proofs.StagedWrites
import StoreClient.Proofs.FailedRuns
import StoreClient.Proofs.Removal
import StoreClient.Proofs.FirstFaults
import StoreClient.Proofs.EmptyLists
import StoreClient.Proofs.ScriptText
import StoreClient.Proofs.ScriptExpressions
import StoreClient.Proofs.ScriptValues
import StoreClient.Proofs.ConversionText
import StoreClient.Proofs.Conversions
import StoreClient.Proofs.TypedRules
import StoreClient.Proofs.CatalogFields
import StoreClient.Proofs.GeneratedNames
import StoreClient.Proofs.TypeBodies
import StoreClient.Proofs.ClientTypes
import StoreClient.Proofs.DistinctProperties
import StoreClient.Proofs.FunctionBodies
import StoreClient.Proofs.HiddenFields
import StoreClient.Proofs.WatchedDisks
import StoreClient.Proofs.SeenWrites
import StoreClient.Proofs.DroppedFields
import StoreClient.Proofs.SchemaValidity
import StoreClient.Proofs.AcceptedValues
import StoreClient.Proofs.PublishedBundles
import StoreClient.Proofs.KeyedValues
import StoreClient.Proofs.PublishedDocuments
import StoreClient.Proofs.Milliseconds
import StoreClient.Proofs.FieldVocabulary
import StoreClient.Proofs.FieldFaults
import StoreClient.Proofs.CollectionFaults
import StoreClient.Proofs.Translations
import StoreClient.Proofs.PatchVariables
import StoreClient.Proofs.PrintedTypes
import StoreClient.Proofs.RejectedPaths
import StoreClient.Proofs.DeclaredCounts
import StoreClient.Proofs.Stamps
import StoreClient.Proofs.TwoLayouts
import StoreClient.Proofs.CatalogRows
import StoreClient.Proofs.HiddenNulls
import StoreClient.Proofs.PrintedNames
