import SearchQuery.Config.Json
import SearchQuery.Number.Reading
import SearchQuery.Parser
import SearchQuery.Proofs.Canonical.Bounds
import SearchQuery.Proofs.Canonical.Rereading
import SearchQuery.Proofs.Canonical.Slops
import SearchQuery.Proofs.DefaultOperator
import SearchQuery.Proofs.Grammar.Depth
import SearchQuery.Proofs.Grammar.Parenthesized
import SearchQuery.Proofs.Grouping
import SearchQuery.Proofs.Json.Configs
import SearchQuery.Proofs.Json.Queries
import SearchQuery.Proofs.Lexer.Decoding
import SearchQuery.Proofs.Lexer.Separation
import SearchQuery.Proofs.Lowering.Chains
import SearchQuery.Proofs.Scope
import SearchQuery.Proofs.Size
import SearchQuery.Proofs.Trace
import SearchQuery.Proofs.Validity
import SearchQuery.Query.Boolean
import SearchQuery.Query.Json
import SearchQuery.Query.Validity
import SearchQuery.Proofs.Lexer.Output
import SearchQuery.Proofs.Lexer.Rendered
import SearchQuery.Proofs.Text.Casing
