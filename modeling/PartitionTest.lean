import PartitionTest.Main
import PartitionTest.Proofs.Case.Samples
import PartitionTest.Proofs.Fragment
import PartitionTest.Proofs.Model.History
import PartitionTest.Proofs.Normalization
import PartitionTest.Proofs.Predicate
import PartitionTest.Proofs.Expr.Kinds
import PartitionTest.Proofs.Expr.Grammar
import PartitionTest.Proofs.RoundTrip.Document
import PartitionTest.Proofs.RoundTrip.Report
import PartitionTest.Proofs.Run.Suites
import PartitionTest.Proofs.Model.Violations
import PartitionTest.Proofs.Run.Preparation
import PartitionTest.Proofs.Command.Output
import PartitionTest.Proofs.Command.Input
import PartitionTest.Proofs.Run.Events
import PartitionTest.Proofs.Model.Building
import PartitionTest.Proofs.Case.ClassNames
import PartitionTest.Proofs.CommandLine.ExitCode
import PartitionTest.Proofs.Case.Representatives
import PartitionTest.Proofs.Reason
import PartitionTest.Proofs.Report.Table
