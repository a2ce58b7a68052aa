import IncludeTree.Disk.Memory
import IncludeTree.Json.Reader
import IncludeTree.Main
import IncludeTree.Proofs.Expansion.Preorder
import IncludeTree.Proofs.Expansion.Termination
import IncludeTree.Proofs.Ledger.History
import IncludeTree.Proofs.Resolution.Ambiguity
import IncludeTree.Proofs.Resolution.Attribution
import IncludeTree.Proofs.Resolution.LocalPath
import IncludeTree.Session
import IncludeTree.Proofs.Expansion.Reinclusion
import IncludeTree.Proofs.Directive.Fields
import IncludeTree.Proofs.Directive.Json
import IncludeTree.Proofs.Expansion.Limit
import IncludeTree.Proofs.Directive.Kdl
import IncludeTree.Proofs.Ledger.Sharing
import IncludeTree.Proofs.Resolution.Scopes
import IncludeTree.Proofs.Resolution.Isolation
import IncludeTree.Proofs.Glob.Reader
import IncludeTree.Proofs.Disk.Listing
import IncludeTree.Proofs.Glob.Match
import IncludeTree.Proofs.WorkingTree.Agreement
import IncludeTree.Proofs.Resolution.Journal
import IncludeTree.Proofs.Rule.Evaluation
import IncludeTree.Proofs.Condition.Meaning
import IncludeTree.Proofs.Condition.Rejection
import IncludeTree.Proofs.Condition.Slices
import IncludeTree.Proofs.Directive.Kept
import IncludeTree.Proofs.Repository.Search
import IncludeTree.Proofs.Variables.Template
import IncludeTree.Proofs.WorkingTree.Containment
