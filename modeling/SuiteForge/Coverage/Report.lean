import SuiteForge.Path

/-!
Coverage reports: the test runner writes them, in one of three formats, at a location that a flag
names.
-/

namespace SuiteForge.Coverage

inductive Format where
  | html
  | xml
  | clover
  deriving DecidableEq

namespace Format

/-- How a format is called in messages. -/
def title : Format → String
  | .html => "HTML"
  | .xml => "XML"
  | .clover => "Clover"

/-- How a format is called in flags. -/
def flagName : Format → String
  | .html => "html"
  | .xml => "xml"
  | .clover => "clover"

/-- What a report is called inside a directory of reports. -/
def fileName : Format → String
  | .html => "coverage"
  | .xml => "coverage.xml"
  | .clover => "clover.xml"

/-- Where a report goes inside a directory of reports. -/
def locationIn (f : Format) (dir : Path) : Path := dir.join ⟨f.fileName⟩

def flag (f : Format) (location : Path) : String :=
  s!"--coverage-{f.flagName}={location.text}"

/-- The directory that has to be there before the runner writes: the report itself when it consists
of many files, else the one it goes into. -/
def directoryFor? (f : Format) (location : Path) : Option Path :=
  match f with
  | .html => some location
  | .xml => location.parent?
  | .clover => location.parent?

end Format

end SuiteForge.Coverage
