import SuiteForge.Main
import SuiteForge.Proofs.Generator.FirstSource
import SuiteForge.Proofs.Generator.ReadBack
import SuiteForge.Proofs.Workbench.Unforced
import SuiteForge.Proofs.Workbench.WrittenOnce
import SuiteForge.Proofs.WriteLog.History
import SuiteForge.Proofs.Provider.Asking
import SuiteForge.Proofs.Workbench.Confined
import SuiteForge.Proofs.Runner.Finding
import SuiteForge.Proofs.Coverage.ReportPlace
import SuiteForge.Proofs.Text.Glob
import SuiteForge.Proofs.Workbench.OwnTests
import SuiteForge.Proofs.Cli.Acts
import SuiteForge.Proofs.Cli.Generating
import SuiteForge.Proofs.Number.Order
import SuiteForge.Proofs.Benchmark.Verdicts
import SuiteForge.Proofs.Cli.Benchmarking
import SuiteForge.Proofs.Provider.Validating
import SuiteForge.Proofs.Provider.Failing
import SuiteForge.Proofs.Cli.Covering
import SuiteForge.Proofs.Settings.Layers
import SuiteForge.Proofs.Php.Separators
import SuiteForge.Proofs.Generator.OneSource
import SuiteForge.Proofs.Benchmark.TestLine
import SuiteForge.Proofs.Coverage.Printed
import SuiteForge.Proofs.Template.Markers
import SuiteForge.Proofs.Synthesis.Distinct
import SuiteForge.Proofs.SourceWalk.Listing
import SuiteForge.Proofs.Php.Namespace
import SuiteForge.Proofs.Generator.Import
import SuiteForge.Proofs.Benchmark.Renaming
import SuiteForge.Proofs.Provider.Fencing
import SuiteForge.Proofs.Naming.Related
import SuiteForge.Proofs.Benchmark.ReportReading
import SuiteForge.Proofs.Provider.Growing
import SuiteForge.Proofs.Number.LeftmostFigure
import SuiteForge.Proofs.Console.Amount
import SuiteForge.Proofs.Console.Columns
import SuiteForge.Proofs.Provider.Endpoint
import SuiteForge.Proofs.Naming.Settled
import SuiteForge.Proofs.Synthesis.Accessors
import SuiteForge.Proofs.Console.Shortened
