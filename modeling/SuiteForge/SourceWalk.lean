import SuiteForge.Disk.Basic
import SuiteForge.Settings.Basic
import SuiteForge.Text.Glob

/-!
The sources of a directory, in the order in which they are visited: depth first, neighbours by
name, the files of a directory at the directory's own place.
-/

namespace SuiteForge.SourceWalk

/-- Which entries a walk takes in. -/
structure Filter where
  ignored : List Path
  excluded : List (List Text.GlobToken)
  extension : String

/-- The filter that settings describe. A pattern that is none excludes nothing. -/
def Filter.ofSettings (s : Settings) : Filter where
  ignored := s.ignoreDirectories.map Path.mk
  excluded := s.generation.excludePatterns.filterMap fun p => Text.globOf? p.toList
  extension := s.generation.extension

namespace Filter

/-- A directory below the start that is left out with all it holds. -/
def ignores (f : Filter) (dir : Path) : Bool := f.ignored.any dir.endsWith

/-- A file name that no pattern fits. -/
def keepsName (f : Filter) (name : String) : Bool :=
  !f.excluded.any fun p => Text.Glob.fits p name.toList

/-- A file that tests are written for. -/
def keeps (f : Filter) (file : Path) (name : String) : Bool :=
  file.extension? = some f.extension && f.keepsName name

end Filter

/-- The sources below a directory, at most `fuel` levels down. -/
def sourcesFrom (f : Filter) (d : Disk) : Nat → Location → Path → List Path
  | 0, _, _ => []
  | fuel + 1, here, path =>
    (d.names here).flatMap fun name =>
      let place := here ++ [name]
      let inside := path.join ⟨name⟩
      match d.entry? place with
      -- the start of a walk is not asked for here, so it is never left out
      | some .directory => if f.ignores inside then [] else sourcesFrom f d fuel place inside
      | some (.file _) => if f.keeps inside name then [inside] else []
      | none => []

def depth (d : Disk) : Nat := (d.entries.map fun (l, _) => l.length).foldl max 0

def sources (f : Filter) (d : Disk) (cwd : Location) (dir : Path) : List Path :=
  match d.resolve cwd dir with
  | .ok (.entry here .directory) => sourcesFrom f d (depth d + 1) here dir
  | _ => []

end SuiteForge.SourceWalk
