import Schemata.Number.Decimal
import Schemata.Parse
import Schemata.Proofs.Addresses
import Schemata.Proofs.Certainty
import Schemata.Proofs.Combining
import Schemata.Proofs.Constraints
import Schemata.Proofs.Depths
import Schemata.Proofs.Documents
import Schemata.Proofs.Erasure
import Schemata.Proofs.Flattening
import Schemata.Proofs.Gathering
import Schemata.Proofs.Growth
import Schemata.Proofs.Hops
import Schemata.Proofs.Inlining
import Schemata.Proofs.Irrelevance
import Schemata.Proofs.Items
import Schemata.Proofs.Languages
import Schemata.Proofs.Matching
import Schemata.Proofs.Nesting
import Schemata.Proofs.Partial
import Schemata.Proofs.PathTexts
import Schemata.Proofs.Pipelines
import Schemata.Proofs.Places
import Schemata.Proofs.Relaxation
import Schemata.Proofs.Repetition
import Schemata.Proofs.Rounds
import Schemata.Proofs.Sessions
import Schemata.Proofs.Settlement
import Schemata.Proofs.Shapes
import Schemata.Proofs.Silence
import Schemata.Proofs.Timing
import Schemata.Proofs.Translation
import Schemata.Proofs.Union
import Schemata.Proofs.Wholes
import Schemata.Registry
import Schemata.Session
import Schemata.Vocabulary
import Schemata.Proofs.Towers
