import CodeIndex.Main
import CodeIndex.Proofs.Index.Convergence
import CodeIndex.Proofs.Index.Reload
import CodeIndex.Proofs.Symbol.Named
import CodeIndex.Proofs.Symbol.Outline
import CodeIndex.Proofs.Workspace.Buffers
import CodeIndex.Proofs.Workspace.Unopened
import CodeIndex.Proofs.Workspace.Roots
import CodeIndex.Proofs.Search.Fuzzy
import CodeIndex.Proofs.Unicode.Case
import CodeIndex.Proofs.Search.Prefilter
import CodeIndex.Proofs.Search.Batches
import CodeIndex.Proofs.Search.Cancellation
import CodeIndex.Proofs.Search.Queries
import CodeIndex.Proofs.Index.Arrival
import CodeIndex.Proofs.Index.Locations
import CodeIndex.Proofs.Server.Shutdown
import CodeIndex.Proofs.Server.Replies
import CodeIndex.Proofs.Server.Registry
import CodeIndex.Proofs.Workspace.Sizes
import CodeIndex.Proofs.Server.Outstanding
import CodeIndex.Proofs.Symbol.Containers
import CodeIndex.Proofs.Symbol.Selection
import CodeIndex.Proofs.Symbol.Usages
import CodeIndex.Proofs.Search.Names
import CodeIndex.Proofs.Search.Expression
import CodeIndex.Proofs.Files.Addresses
import CodeIndex.Proofs.Files.History
import CodeIndex.Proofs.Scan.Limit
import CodeIndex.Proofs.Config
import CodeIndex.Proofs.Workspace.Edits
import CodeIndex.Proofs.Index.Frame
import CodeIndex.Proofs.Index.Resolve
import CodeIndex.Proofs.Symbol.Labels
import CodeIndex.Proofs.Syntax.Captures
import CodeIndex.Proofs.Workspace.Typing
import CodeIndex.Proofs.Server.Positions
