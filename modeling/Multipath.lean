import Multipath.GroundTruth.Source
import Multipath.Lattice.Layout
import Multipath.Report.Summary
import Multipath.Report.Json
import Multipath.Session
import Multipath.FailureTest
import Multipath.Main
import Multipath.Proofs.Except
import Multipath.Proofs.Labels
import Multipath.Proofs.Report.Account
import Multipath.Proofs.Report.Histogram
import Multipath.Proofs.Session
import Multipath.Proofs.Comparison
import Multipath.Proofs.Comparison.SymmetricDifference
import Multipath.Proofs.Lattice.Block
import Multipath.Proofs.Lattice.Layout
import Multipath.Proofs.Lattice.Malformed
import Multipath.Proofs.Lattice.Labels
import Multipath.Proofs.Lattice.Framing
import Multipath.Proofs.Lattice.Grammar
import Multipath.Proofs.Lattice.Concatenation
import Multipath.Proofs.Lattice.Renaming
import Multipath.Proofs.GroundTruth
import Multipath.Proofs.GroundTruth.Editing
import Multipath.Proofs.GroundTruth.Lookup
import Multipath.Proofs.GroundTruth.Address
import Multipath.Proofs.Scoring
import Multipath.Proofs.Report.Agreement
import Multipath.Proofs.FileTree
import Multipath.Proofs.Prober.Subprocess
import Multipath.Proofs.Prober.Stages
import Multipath.Proofs.Report.Json
import Multipath.Proofs.Topology.EdgeSet
import Multipath.Proofs.Report.Rearrangement
import Multipath.Proofs.Report.Audit
import Multipath.Proofs.Session.Log
import Multipath.Proofs.FileTree.Writing
import Multipath.Proofs.FileTree.Listing
import Multipath.Proofs.FileTree.Opening
import Multipath.Proofs.CommandLine
import Multipath.Proofs.FailureTest
import Multipath.Proofs.Report.Sheet
import Multipath.Proofs.Topology.Childless
import Multipath.Proofs.Report.Safety
import Multipath.Proofs.CommandLine.Switches
import Multipath.Proofs.FailureTest.Verbosity
import Multipath.Proofs.FileTree.Revision
import Multipath.Proofs.Prober.Revision
import Multipath.Proofs.FailureTest.Presentation
import Multipath.Proofs.Report.Coverage
import Multipath.Proofs.CommandLine.Options
import Multipath.Proofs.Config
import Multipath.Proofs.Prober.Launch
import Multipath.Proofs.FailureTest.Configured
import Multipath.Proofs.FailureTest.TruthSource
