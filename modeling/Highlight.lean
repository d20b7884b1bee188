import Highlight.Client
import Highlight.Node.Hast
import Highlight.Pattern.Highlighter
import Highlight.Pattern.Pack
import Highlight.Proofs.Acceptance
import Highlight.Proofs.Atomicity
import Highlight.Proofs.Batch
import Highlight.Proofs.CanonicalForm
import Highlight.Proofs.Compiling
import Highlight.Proofs.Composition
import Highlight.Proofs.Coverage
import Highlight.Proofs.ForeignTags
import Highlight.Proofs.Forward
import Highlight.Proofs.GrammarText
import Highlight.Proofs.Invariant
import Highlight.Proofs.JsonText
import Highlight.Proofs.Levels
import Highlight.Proofs.LeftmostToken
import Highlight.Proofs.LiveAliases
import Highlight.Proofs.NestingLimit
import Highlight.Proofs.NodeText
import Highlight.Proofs.Preview
import Highlight.Proofs.Provenance
import Highlight.Proofs.Publication
import Highlight.Proofs.Reapplying
import Highlight.Proofs.Registering
import Highlight.Proofs.Removal
import Highlight.Proofs.Repointing
import Highlight.Proofs.Resolution
import Highlight.Proofs.Scanning
import Highlight.Proofs.StreamText
import Highlight.Proofs.StreamTree
import Highlight.Proofs.Transparency
import Highlight.Published
import Highlight.Token.Json
