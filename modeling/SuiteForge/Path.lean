import SuiteForge.Text.Scan

/-!
Paths as they are written, and the components they consist of.

A path keeps its text; nothing is normalised. Two paths are the same, one ends with another, and
paths are ordered, by their components: repeated slashes, slashes at the end and inner dots do not
count, a dot at the very start does.
-/

namespace SuiteForge

structure Path where
  text : String
  deriving DecidableEq, Repr

namespace Path

inductive Component where
  | root
  | current
  | parent
  | name (text : String)
  deriving DecidableEq, Repr

def Component.kind : Component → Nat
  | .root => 0
  | .current => 1
  | .parent => 2
  | .name _ => 3

/-- The order of components: the root first, then dots, then names by their characters. -/
def Component.before : Component → Component → Bool
  | .name a, .name b => a < b
  | a, b => a.kind < b.kind

/-- The texts between the slashes. -/
def pieces (p : Path) : List String := (Text.splitOn '/' p.text.toList).map String.ofList

def isAbsolute (p : Path) : Bool := p.text.toList.head? = some '/'

/-- A piece as a component; `atStart` says that it is where a relative path begins. -/
def component? (atStart : Bool) (piece : String) : Option Component :=
  if piece = "" then none
  else if piece = "." then if atStart then some .current else none
  else if piece = ".." then some .parent
  else some (.name piece)

/-- The components with the pieces they come from, each piece counted from the front. -/
def placed (p : Path) : List (Nat × Component) :=
  p.pieces.zipIdx.filterMap fun (piece, i) =>
    (component? (i = 0 && !p.isAbsolute) piece).map (i, ·)

def components (p : Path) : List Component :=
  (if p.isAbsolute then [.root] else []) ++ p.placed.map Prod.snd

/-- Equality by components. -/
def same (p q : Path) : Bool := p.components = q.components

/-- The order of paths, from the first components that differ. -/
def componentsBefore : List Component → List Component → Bool
  | [], [] => false
  | [], _ :: _ => true
  | _ :: _, [] => false
  | a :: as, b :: bs => if a = b then componentsBefore as bs else a.before b

def before (p q : Path) : Bool := componentsBefore p.components q.components

def sort (ps : List Path) : List Path := ps.mergeSort fun p q => !q.before p

/-- `q` seen from `p`: an absolute path stands for itself. -/
def join (p q : Path) : Path :=
  if q.isAbsolute || p.text = "" then q
  else if p.text.toList.getLast? = some '/' then ⟨p.text ++ q.text⟩
  else ⟨p.text ++ "/" ++ q.text⟩

/-- The pieces from one place to another, with the slashes between them. -/
def slice (p : Path) (first last : Nat) : String :=
  "/".intercalate ((p.pieces.take (last + 1)).drop first)

/-- The path without its last component. The root and the empty path have no parent. -/
def parent? (p : Path) : Option Path :=
  match p.placed.reverse with
  | [] => none
  | [_] => some ⟨if p.isAbsolute then "/" else ""⟩
  | _ :: (i, _) :: _ => some ⟨p.slice 0 i⟩

/-- The last component, when it is a name. -/
def fileName? (p : Path) : Option String :=
  match p.components.getLast? with
  | some (.name n) => some n
  | _ => none

/-- What follows the last point of a file name. A name whose only point comes first has none. -/
def extensionOf? (name : String) : Option String :=
  match Text.splitOnce ['.'] name.toList.reverse with
  | some (ext, _ :: _) => some (String.ofList ext.reverse)
  | _ => none

def extension? (p : Path) : Option String := p.fileName?.bind extensionOf?

/-- The last components of `p` are those of `q`. -/
def endsWith (p q : Path) : Bool := q.components.isSuffixOf p.components

/-- What is left of `p` behind `q`, if `p` starts with the components of `q`. -/
def behind? (p q : Path) : Option Path :=
  if q.components.isPrefixOf p.components then
    let skipped := q.components.length - (if p.isAbsolute then 1 else 0)
    if p.isAbsolute && q.components = [] then some p
    else match p.placed.drop skipped with
      | [] => some ⟨""⟩
      | (first, _) :: _ =>
        let last := (p.placed.getLast?.map Prod.fst).getD first
        some ⟨p.slice first last⟩
  else none

end Path

end SuiteForge
