import SchemaTypings.Code.Block
import SchemaTypings.Code.Comment
import SchemaTypings.Code.Declaration
import SchemaTypings.Code.Emit
import SchemaTypings.Code.Enums
import SchemaTypings.Code.Error
import SchemaTypings.Code.Literal
import SchemaTypings.Code.NameTable
import SchemaTypings.Code.Names
import SchemaTypings.Code.Output
import SchemaTypings.Code.ScalarTable
import SchemaTypings.Code.TypeExpr
import SchemaTypings.Config.Basic
import SchemaTypings.Config.Reading
import SchemaTypings.Config.Error
import SchemaTypings.Config.Options
import SchemaTypings.Config.Settings
import SchemaTypings.Config.Store
import SchemaTypings.Console.Arguments
import SchemaTypings.Console.Constant
import SchemaTypings.Console.LogLevel
import SchemaTypings.Console.Markup
import SchemaTypings.Console.Overrides
import SchemaTypings.Console.Run
import SchemaTypings.Console.Style
import SchemaTypings.Decimal.Binary64
import SchemaTypings.Decimal.Shortest
import SchemaTypings.Folder.Basic
import SchemaTypings.Folder.Limit
import SchemaTypings.Folder.Path
import SchemaTypings.Generator.Basic
import SchemaTypings.Generator.Registry
import SchemaTypings.Generator.Run
import SchemaTypings.Import.Ledger
import SchemaTypings.Import.Mapper
import SchemaTypings.Json.Reader
import SchemaTypings.Json.Writer
import SchemaTypings.Main
import SchemaTypings.Name.Sanitizer
import SchemaTypings.Name.Style
import SchemaTypings.Name.Words
import SchemaTypings.Schema.Basic
import SchemaTypings.Schema.Build
import SchemaTypings.Schema.Introspection
import SchemaTypings.Schema.Source
import SchemaTypings.Sdl.Check
import SchemaTypings.Sdl.Document
import SchemaTypings.Sdl.Reader
import SchemaTypings.Sdl.Token
import SchemaTypings.Table
import SchemaTypings.Template.Basic
import SchemaTypings.Text.Alphanumeric
import SchemaTypings.Text.Blank
import SchemaTypings.Text.CaseData
import SchemaTypings.Text.CellWidth
import SchemaTypings.Text.Digit
import SchemaTypings.Text.Emoji
import SchemaTypings.Text.EmojiNames
import SchemaTypings.Text.LetterCase
import SchemaTypings.Text.Printable
import SchemaTypings.Value.Basic
import SchemaTypings.Value.Limit
import SchemaTypings.Value.Text
import SchemaTypings.Proofs.Outcome
import SchemaTypings.Proofs.TableOrder
import SchemaTypings.Proofs.TextLimits
import SchemaTypings.Proofs.Cutting
import SchemaTypings.Proofs.TypeMap
import SchemaTypings.Proofs.Emission
import SchemaTypings.Proofs.References
import SchemaTypings.Proofs.Scalars
import SchemaTypings.Proofs.Ledger
import SchemaTypings.Proofs.LetterCase
import SchemaTypings.Proofs.Bindings
import SchemaTypings.Proofs.EnumKeys
import SchemaTypings.Proofs.Registration
import SchemaTypings.Proofs.RegistryRuns
import SchemaTypings.Proofs.FieldNames
import SchemaTypings.Proofs.OneOf
import SchemaTypings.Proofs.Readable
import SchemaTypings.Proofs.RegistryReach
import SchemaTypings.Proofs.Faults
import SchemaTypings.Proofs.OptionKeys
import SchemaTypings.Proofs.EntryPoints
import SchemaTypings.Proofs.TypeNames
import SchemaTypings.Proofs.Outline
import SchemaTypings.Proofs.Shapes
import SchemaTypings.Proofs.Bare
import SchemaTypings.Proofs.Lines
import SchemaTypings.Proofs.Numerals
import SchemaTypings.Proofs.Layout
import SchemaTypings.Proofs.DocumentNames
import SchemaTypings.Proofs.Notices
import SchemaTypings.Proofs.Uncommented
import SchemaTypings.Proofs.SchemaNames
import SchemaTypings.Proofs.OneLine
import SchemaTypings.Proofs.PlainOptions
import SchemaTypings.Proofs.QuietBlocks
import SchemaTypings.Proofs.Steady
import SchemaTypings.Proofs.SteadyRuns
import SchemaTypings.Proofs.Descriptions
import SchemaTypings.Proofs.LedgerRuns
import SchemaTypings.Proofs.ImportLines
import SchemaTypings.Proofs.NameMemory
import SchemaTypings.Proofs.Locality
import SchemaTypings.Proofs.Sides
import SchemaTypings.Proofs.Implementers
import SchemaTypings.Proofs.Wrapping
import SchemaTypings.Proofs.Loading
import SchemaTypings.Proofs.WrittenValues
import SchemaTypings.Proofs.WrittenFiles
import SchemaTypings.Proofs.SavedConfig
import SchemaTypings.Proofs.Precedence
import SchemaTypings.Proofs.SingleOptions
import SchemaTypings.Proofs.LanguageRuns
import SchemaTypings.Proofs.ValidConfigs
import SchemaTypings.Proofs.Words
import SchemaTypings.Proofs.Recasing
import SchemaTypings.Proofs.Collisions
import SchemaTypings.Proofs.ConfigLimits
import SchemaTypings.Proofs.GeneratorRoutes
import SchemaTypings.Proofs.KeySpellings
import SchemaTypings.Proofs.MapperForms
import SchemaTypings.Proofs.ScalarRules
import SchemaTypings.Proofs.Sifting
import SchemaTypings.Proofs.SiftedDocuments
import SchemaTypings.Proofs.Overrides
import SchemaTypings.Proofs.CommentEnds
import SchemaTypings.Proofs.Literals
import SchemaTypings.Proofs.Tidying
