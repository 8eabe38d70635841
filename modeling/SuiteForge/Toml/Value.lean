import SuiteForge.Number.Decimal

/-!
TOML values and the tables that a document builds while it is read.

While reading, a table remembers how it came about, since that decides what may still be added to
it: a table opened by a header may not be opened again, one that only lies on the way to another
may, and dotted keys may only extend tables that dotted keys made.
-/

namespace SuiteForge.Toml

/-- A value. A date or time is kept as written. -/
inductive Value where
  | string (text : String)
  | integer (value : Int)
  | float (value : Binary64)
  | boolean (value : Bool)
  | moment (text : String)
  | array (elements : List Value)
  | table (members : List (String × Value))

/-- How a table came about. -/
inductive Origin where
  | header
  | onTheWay
  | dottedKey
  deriving DecidableEq

/-- A document under construction. An array of tables lists its closed tables last first. -/
inductive Item where
  | value (v : Value)
  | table (origin : Origin) (members : List (String × Item))
  | tables (last : List (String × Item)) (earlier : List (List (String × Item)))

/-- The members of a table under construction. -/
abbrev Members := List (String × Item)

def lookup (key : String) : Members → Option Item
  | [] => none
  | (k, v) :: rest => if k = key then some v else lookup key rest

/-- Puts an item under a key, in place when the key is there. -/
def insert (key : String) (item : Item) : Members → Members
  | [] => [(key, item)]
  | (k, v) :: rest => if k = key then (k, item) :: rest else (k, v) :: insert key item rest

mutual

/-- A finished document is a plain value. -/
def Item.toValue : Item → Value
  | .value v => v
  | .table _ members => .table (membersToValues members)
  | .tables last earlier =>
    .array ((.table (membersToValues last) :: earlierToValues earlier).reverse)

def membersToValues : List (String × Item) → List (String × Value)
  | [] => []
  | (k, item) :: rest => (k, item.toValue) :: membersToValues rest

def earlierToValues : List (List (String × Item)) → List Value
  | [] => []
  | t :: ts => .table (membersToValues t) :: earlierToValues ts

end

/-! ### Extending a document -/

/-- Applies `change` to the table that a path leads to, making tables of the given origin where
there are none. A path leads through the newest table of an array of tables. A path of dotted keys
does not enter a table that has a header. -/
def descend (origin : Origin) (change : Origin → Members → Option Members) :
    List String → Origin → Members → Option Members
  | [], here, members => change here members
  | key :: path, _, members =>
    match lookup key members with
    | none =>
      (descend origin change path origin []).map fun sub => insert key (.table origin sub) members
    | some (.value _) => none
    | some (.tables last earlier) =>
      (descend origin change path .header last).map fun sub =>
        insert key (.tables sub earlier) members
    | some (.table here sub) =>
      if origin = .dottedKey ∧ here = .header then none
      else (descend origin change path here sub).map fun sub =>
        insert key (.table here sub) members

/-- Adds `path.key = value` to a table. Dotted keys end in a table that dotted keys made, and
nothing is defined twice. -/
def define (path : List String) (key : String) (value : Item) (origin : Origin)
    (members : Members) : Option Members :=
  descend .dottedKey (fun here sub =>
    if path ≠ [] ∧ here ≠ .dottedKey then none
    else match lookup key sub with
      | some _ => none
      | none => some (insert key value sub)) path origin members

/-- Opens the table `path.key` by its header; a table may have only one. -/
def openTable (path : List String) (key : String) (root : Members) : Option Members :=
  descend .onTheWay (fun _ sub =>
    match lookup key sub with
    | none => some (insert key (.table .header []) sub)
    | some (.table .onTheWay members) => some (insert key (.table .header members) sub)
    | some _ => none) path .header root

/-- Opens a new table at the end of the array of tables `path.key`. -/
def openArrayTable (path : List String) (key : String) (root : Members) : Option Members :=
  descend .onTheWay (fun _ sub =>
    match lookup key sub with
    | none => some (insert key (.tables [] []) sub)
    | some (.tables last earlier) => some (insert key (.tables [] (last :: earlier)) sub)
    | some _ => none) path .header root

end SuiteForge.Toml
