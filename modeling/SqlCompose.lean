import SqlCompose.Codec.Row
import SqlCompose.Expression.Same
import SqlCompose.Resolution.ScopeTree
import SqlCompose.Settings.Files
import SqlCompose.Statement.Compiler
import SqlCompose.Proofs.Binding
import SqlCompose.Proofs.Parentheses
import SqlCompose.Proofs.Alongside
import SqlCompose.Proofs.Hiding
import SqlCompose.Proofs.Embedding
import SqlCompose.Proofs.Freshness
import SqlCompose.Proofs.Capture
import SqlCompose.Proofs.Reordering
import SqlCompose.Proofs.Markers
import SqlCompose.Proofs.Verbatim
import SqlCompose.Proofs.Ledger
import SqlCompose.Proofs.ForcedKind
import SqlCompose.Proofs.StringLiterals
import SqlCompose.Proofs.StoredText
import SqlCompose.Proofs.PlainText
import SqlCompose.Proofs.ScalarLiterals
import SqlCompose.Proofs.WholeNumbers
import SqlCompose.Proofs.StringValues
import SqlCompose.Proofs.RawMarkers
import SqlCompose.Proofs.Patterns
import SqlCompose.Proofs.Pages
import SqlCompose.Proofs.FirstAnswer
import SqlCompose.Proofs.FilterText
import SqlCompose.Proofs.BindTypes
import SqlCompose.Proofs.OuterOrder
import SqlCompose.Proofs.ValueLists
import SqlCompose.Proofs.SortTerms
import SqlCompose.Proofs.Refusals
import SqlCompose.Proofs.MixedAliases
import SqlCompose.Proofs.Initialization
import SqlCompose.Proofs.DottedNames
import SqlCompose.Proofs.AliasOrigins
import SqlCompose.Proofs.Expansion
