import SchemaDdl.Main
import SchemaDdl.Schema.ColumnBuilder
import SchemaDdl.Proofs.Scanner
import SchemaDdl.Proofs.Lexer
import SchemaDdl.Proofs.PlainText
import SchemaDdl.Proofs.Quoting
import SchemaDdl.Proofs.PlanForms
import SchemaDdl.Proofs.Outcome
import SchemaDdl.Proofs.Replay
import SchemaDdl.Proofs.Blocks
import SchemaDdl.Proofs.Inlining
import SchemaDdl.Proofs.ColumnText
import SchemaDdl.Proofs.Binding
import SchemaDdl.Proofs.Parts
import SchemaDdl.Proofs.Templates
import SchemaDdl.Proofs.Structure
import SchemaDdl.Proofs.NameLength
import SchemaDdl.Proofs.NameTable
import SchemaDdl.Proofs.Refusal
import SchemaDdl.Proofs.ErrorGuard
import SchemaDdl.Proofs.FloatRange
import SchemaDdl.Proofs.JsonRange
import SchemaDdl.Proofs.JsonScalars
import SchemaDdl.Proofs.JsonStability
import SchemaDdl.Proofs.JsonItems
import SchemaDdl.Proofs.JsonText
import SchemaDdl.Proofs.FileFloats
import SchemaDdl.Proofs.ColumnCodec
import SchemaDdl.Proofs.MigrationFile
import SchemaDdl.Proofs.StatementQueue
import SchemaDdl.Proofs.FittingNames
import SchemaDdl.Proofs.MatchingDrops
import SchemaDdl.Proofs.GenericForms
import SchemaDdl.Proofs.RunSteps
import SchemaDdl.Proofs.SuppressedErrors
import SchemaDdl.Proofs.NameAliases
import SchemaDdl.Proofs.RecordLayout
import SchemaDdl.Proofs.FileLayout
import SchemaDdl.Proofs.InliningSteps
import SchemaDdl.Proofs.InlinedTokens
import SchemaDdl.Proofs.SingleIdentifiers
import SchemaDdl.Proofs.ColumnByColumn
import SchemaDdl.Proofs.CommentLines
import SchemaDdl.Proofs.BoundDefaults
import SchemaDdl.Proofs.BackslashEscapes
import SchemaDdl.Proofs.EmptyIdentifiers
import SchemaDdl.Proofs.UniqueNames
import SchemaDdl.Proofs.NameWarnings
import SchemaDdl.Proofs.FileShape
import SchemaDdl.Proofs.LastSteps
import SchemaDdl.Proofs.LexedPlaceholders
import SchemaDdl.Proofs.NamesReadBack
