import SuiteForge.Coverage.Basic
import SuiteForge.Coverage.Report
import SuiteForge.Runner.Harness

/-!
Measuring coverage: running the tests, reading the figures, and having reports written.

A run that fails gives no figures, and the total is zero then.
-/

namespace SuiteForge.Coverage

open Runner (Harness)

/-- What coverage is measured against and where its reports go. -/
structure Analyzer where
  settings : CoverageSettings
  reportsDirectory : Path
  cwd : Location

/-- Figures with the threshold they are held against. -/
structure Verdict where
  figures : Figures
  threshold : Binary64

def Verdict.passed (v : Verdict) : Bool := v.threshold.atMost v.figures.total

/-- How many files are covered well, and how many are not. -/
structure Stats where
  total : Binary64
  files : Nat
  covered : Nat
  low : Nat

def Stats.ofFigures (f : Figures) : Stats :=
  let covered := (f.rows.filter (·.status = .good)).length
  { total := f.total, files := f.rows.length, covered, low := f.rows.length - covered }

namespace Analyzer

def ofSettings (s : Settings) (root : Path) (cwd : Location) : Analyzer where
  settings := s.coverage
  reportsDirectory := s.reportsDirectory root
  cwd

/-- The flag that makes the runner print figures. -/
def textFlag : String := "--coverage-text"

def measure (a : Analyzer) (h : Harness) : Figures × Harness :=
  match h.run a.cwd [textFlag] with
  | (.ok output, h) => (.ofOutput output, h)
  | (.error _, h) => ({}, h)

/-- Measures against a threshold, the settings' own if none is given. -/
def judge (a : Analyzer) (threshold : Option Binary64) (h : Harness) : Verdict × Harness :=
  let (figures, h) := a.measure h
  ({ figures, threshold := threshold.getD a.settings.threshold }, h)

def stats (a : Analyzer) (h : Harness) : Stats × Harness :=
  let (figures, h) := a.measure h
  (.ofFigures figures, h)

def prepare (a : Analyzer) (f : Format) (location : Path) (d : Disk) : Bool × Disk :=
  match f.directoryFor? location with
  | none => (true, d)
  | some dir =>
    match d.makeDirectories a.cwd dir with
    | (.ok (), d) => (true, d)
    | (.error _, d) => (false, d)

/-- Has a report written, at its usual place if no other is given, and tells whether the run went
well. -/
def report (a : Analyzer) (f : Format) (location : Option Path) (h : Harness) : Bool × Harness :=
  let location := location.getD (f.locationIn a.reportsDirectory)
  let (ready, disk) := a.prepare f location h.disk
  let h := { h with disk }
  if ready then
    -- what the runner prints is not looked at
    match h.run a.cwd [f.flag location, textFlag] with
    | (.ok _, h) => (true, h)
    | (.error _, h) => (false, h)
  else (false, h)

def reports (a : Analyzer) (location : Format → Option Path) :
    List Format → Harness → List (Format × Bool) × Harness
  | [], h => ([], h)
  | f :: fs, h =>
    let (ok, h) := a.report f (location f) h
    let (done, h) := reports a location fs h
    ((f, ok) :: done, h)

def configured (a : Analyzer) : List Format :=
  (if a.settings.htmlReports then [.html] else []) ++
    (if a.settings.xmlReports then [.xml] else []) ++
    (if a.settings.cloverReports then [.clover] else [])

/-- Has the reports of the settings written into a directory, the usual one if none is given. -/
def configuredReports (a : Analyzer) (dir : Option Path) (h : Harness) :
    List (Format × Bool) × Harness :=
  let dir := dir.getD a.reportsDirectory
  a.reports (fun f => some (f.locationIn dir)) a.configured h

end Analyzer

end SuiteForge.Coverage
