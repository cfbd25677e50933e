import TreePath.Access.OneOff
import TreePath.Crate.Cache
import TreePath.Derive.Implementation
import TreePath.Proofs.Path.RoundTrip
import TreePath.Proofs.Access.ReadBack
import TreePath.Proofs.Access.Locality
import TreePath.Proofs.Access.WriteRun
import TreePath.Proofs.Access.EntryPoints
import TreePath.Proofs.Crate.History
import TreePath.Proofs.Grammar.Loose
import TreePath.Proofs.Grammar.Faults
import TreePath.Proofs.Grammar.Joins
import TreePath.Proofs.Path.Canonical
import TreePath.Proofs.Access.Misses
import TreePath.Proofs.Access.Verdicts
import TreePath.Proofs.Access.Independence
import TreePath.Proofs.Access.Simulation
import TreePath.Proofs.Access.Regimes
import TreePath.Proofs.Tree.ObjectHistory
import TreePath.Proofs.Access.Logs
import TreePath.Proofs.Derive.Bounds
import TreePath.Proofs.Derive.Acceptance
import TreePath.Proofs.Access.Notes
import TreePath.Proofs.Grammar.Progress
