import ContractTree.Import.Batch
import ContractTree.Json.Text
import ContractTree.Tree.Equality
import ContractTree.Tree.Traversal
import ContractTree.Proofs.Conversion.Journal
import ContractTree.Proofs.Conversion.Replay
import ContractTree.Proofs.Conversion.Answers
import ContractTree.Proofs.Form.Reads
import ContractTree.Proofs.Document.Places
import ContractTree.Proofs.Document.Entries
import ContractTree.Proofs.Conversion.Converted
import ContractTree.Proofs.Tree.Grammar
import ContractTree.Proofs.Conversion.Account
import ContractTree.Proofs.Import.Grammar
import ContractTree.Proofs.Import.Identifiers
import ContractTree.Proofs.Form.Yields
import ContractTree.Proofs.Import.RoundTrip
import ContractTree.Proofs.Import.Depth
import ContractTree.Proofs.Import.Types
import ContractTree.Proofs.Import.Blame
import ContractTree.Proofs.Import.Composed
import ContractTree.Proofs.Import.Spellings
import ContractTree.Proofs.Token.Joined
import ContractTree.Proofs.Token.Words
import ContractTree.Proofs.Import.Layouts
import ContractTree.Proofs.Form.Relocated
import ContractTree.Proofs.Import.SourceNames
import ContractTree.Proofs.Import.Batches
import ContractTree.Proofs.Conversion.Dispatched
import ContractTree.Proofs.Import.Nulls
import ContractTree.Proofs.Import.Annotations
import ContractTree.Proofs.Document.Markers
import ContractTree.Proofs.Form.TypePaths
import ContractTree.Proofs.Form.Assembly
import ContractTree.Proofs.Tree.Owned
import ContractTree.Proofs.Import.Lists
import ContractTree.Proofs.Document.Scalars
