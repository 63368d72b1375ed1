import QueryBind.Catalogue
import QueryBind.Declaration
import QueryBind.Dialect.Settings
import QueryBind.Executor.Log
import QueryBind.Executor.Script
import QueryBind.Postgres.Server
import QueryBind.Query.Memo
import QueryBind.Record.MappingCache
import QueryBind.Proofs.Declaration.Accessors
import QueryBind.Proofs.Error.Wrapping
import QueryBind.Proofs.Executor.Truncation
import QueryBind.Proofs.Identifier.Quoting
import QueryBind.Proofs.Postgres.Encoding
import QueryBind.Proofs.Query.Aliases
import QueryBind.Proofs.Query.Comments
import QueryBind.Proofs.Query.Conversion
import QueryBind.Proofs.Query.Interleaving
import QueryBind.Proofs.Query.Isolation
import QueryBind.Proofs.Query.Keyword
import QueryBind.Proofs.Query.Matching
import QueryBind.Proofs.Query.PlaceLists
import QueryBind.Proofs.Query.Positional
import QueryBind.Proofs.Query.SoftDelete
import QueryBind.Proofs.Query.StatementKind
import QueryBind.Proofs.Query.Substitution
import QueryBind.Proofs.Query.Tables
import QueryBind.Proofs.Record.PathBytes
import QueryBind.Proofs.Record.Refusal
import QueryBind.Proofs.Record.Resolution
import QueryBind.Proofs.Record.Sharing
import QueryBind.Proofs.Relation.Attaching
import QueryBind.Proofs.Relation.PathSets
import QueryBind.Proofs.Value.RoundTrip
