import QueryCoercion.Catalog
import QueryCoercion.Coercion.Pass
import QueryCoercion.Coercion.Reads
import QueryCoercion.Coercion.Typing
import QueryCoercion.Context
import QueryCoercion.Decimal
import QueryCoercion.Expr.Basic
import QueryCoercion.Expr.Printer
import QueryCoercion.Expr.Visit
import QueryCoercion.Json.Lexeme
import QueryCoercion.Json.Reader
import QueryCoercion.Json.Value
import QueryCoercion.Names
import QueryCoercion.Proofs.Absorption
import QueryCoercion.Proofs.Aliases
import QueryCoercion.Proofs.Answers
import QueryCoercion.Proofs.BaseTables
import QueryCoercion.Proofs.Collected
import QueryCoercion.Proofs.Copies
import QueryCoercion.Proofs.Delimited
import QueryCoercion.Proofs.DirectWalk
import QueryCoercion.Proofs.FirstReads
import QueryCoercion.Proofs.History
import QueryCoercion.Proofs.Idle
import QueryCoercion.Proofs.Isolation
import QueryCoercion.Proofs.LastRow
import QueryCoercion.Proofs.Literals
import QueryCoercion.Proofs.Loading
import QueryCoercion.Proofs.Lookups
import QueryCoercion.Proofs.NewTrees
import QueryCoercion.Proofs.NormalForm
import QueryCoercion.Proofs.NoticeRange
import QueryCoercion.Proofs.Notices
import QueryCoercion.Proofs.Passes
import QueryCoercion.Proofs.Policy
import QueryCoercion.Proofs.Relevance
import QueryCoercion.Proofs.Repetition
import QueryCoercion.Proofs.Rewrite
import QueryCoercion.Proofs.Sameness
import QueryCoercion.Proofs.Seats
import QueryCoercion.Proofs.TimeZones
import QueryCoercion.Proofs.Tree
import QueryCoercion.Proofs.TypedReads
import QueryCoercion.Schema
import QueryCoercion.Session
import QueryCoercion.Text.Printable
import QueryCoercion.Text.Quoted
