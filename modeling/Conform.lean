import Conform.Comparison
import Conform.Descriptor.Conform
import Conform.Workspace
import Conform.Version
import Conform.Proofs.Grammar
import Conform.Proofs.Agreement
import Conform.Proofs.Invariance
import Conform.Proofs.Interchange
import Conform.Proofs.Failures
import Conform.Proofs.Safety
import Conform.Proofs.Shapes
import Conform.Proofs.Tightening
import Conform.Proofs.Assertion
import Conform.Proofs.Bracketing
import Conform.Proofs.Reordering
import Conform.Proofs.Sets
import Conform.Proofs.Naming
import Conform.Proofs.Alterations
import Conform.Proofs.Hashing
import Conform.Proofs.Registries
import Conform.Proofs.Dependence
import Conform.Proofs.Retyping
import Conform.Proofs.Branches
import Conform.Proofs.Conjunctions
import Conform.Proofs.Calls
import Conform.Proofs.BadPatterns
import Conform.Proofs.Unread
import Conform.Proofs.Positions
import Conform.Proofs.Membership
import Conform.Proofs.Distinctness
import Conform.Proofs.WholeNumbers
import Conform.Proofs.Walks
import Conform.Proofs.Reports
