/-!
Binary64 numbers.

The non-negative finite numbers are counted in increasing order: `0` has rank `0`, the smallest
positive number rank `1`. All of them are whole multiples of `2^-1074`, so exact arithmetic is
arithmetic on `Nat` and `Int` in that unit, followed by one rounding to the nearest number, a tie
going to the even rank.
-/

namespace SuiteForge

/-- The number of finite ranks; the next rank would be infinity. -/
def rankLimit : Nat := 2047 * Nat.pow 2 52

/-- A binary64 number: not a number, an infinity, or a sign with the rank of its magnitude. -/
inductive Binary64 where
  | nan
  | infinite (negative : Bool)
  | finite (negative : Bool) (rank : Nat) (lt : rank < rankLimit)
  deriving DecidableEq

/-- The quotient of two naturals rounded to the nearest natural, a tie to the even one. -/
def roundQuotient (num den : Nat) : Nat :=
  let q := num / den
  let r := num % den
  if 2 * r < den then q
  else if den < 2 * r then q + 1
  else if q % 2 = 0 then q
  else q + 1

namespace Binary64

/-! ### Ranks and values -/

/-- The exponent of two, in units of `2^-1074`, that goes with a rank. -/
def exponentOf (rank : Nat) : Nat := rank / Nat.pow 2 52 - 1

/-- The significand that goes with a rank. -/
def significandOf (rank : Nat) : Nat := rank - exponentOf rank * Nat.pow 2 52

/-- The value of a rank as a multiple of `2^-1074`. -/
def unitsOf (rank : Nat) : Nat := significandOf rank * Nat.pow 2 (exponentOf rank)

/-- One, as a multiple of `2^-1074`. -/
def unitsPerOne : Nat := Nat.pow 2 1074

/-- The rank nearest to `num / den` units. It may reach or pass `rankLimit`. -/
def nearestRank (num den : Nat) : Nat :=
  let k := (num / den).log2 - 52
  k * Nat.pow 2 52 + roundQuotient num (den * Nat.pow 2 k)

/-- The number of a rank: beyond the finite ones it is infinite. -/
def ofRank (negative : Bool) (rank : Nat) : Binary64 :=
  if h : rank < rankLimit then .finite negative rank h else .infinite negative

/-- The number nearest to `num / den`, with the given sign. -/
def ofRatio (negative : Bool) (num den : Nat) : Binary64 :=
  ofRank negative (nearestRank (num * unitsPerOne) den)

def ofNat (n : Nat) : Binary64 := ofRatio false n 1

def ofInt (n : Int) : Binary64 := ofRatio (n < 0) n.natAbs 1

instance (n : Nat) : OfNat Binary64 n := ⟨ofNat n⟩

def zero : Binary64 := .finite false 0 (by decide)

def negativeZero : Binary64 := .finite true 0 (by decide)

def isFinite : Binary64 → Bool
  | .finite .. => true
  | _ => false

def isNaN : Binary64 → Bool
  | .nan => true
  | _ => false

def abs : Binary64 → Binary64
  | .nan => .nan
  | .infinite _ => .infinite false
  | .finite _ rank lt => .finite false rank lt

/-! ### Order -/

/-- The place of a number on the line, the infinities at the ends; both zeros are at `0`. -/
def place? : Binary64 → Option Int
  | .nan => none
  | .infinite negative => some (if negative then -rankLimit else rankLimit)
  | .finite negative rank _ => some (if negative then -rank else rank)

/-- `x < y`; false when either is not a number. -/
def less (x y : Binary64) : Bool :=
  match x.place?, y.place? with
  | some a, some b => a < b
  | _, _ => false

/-- `x ≤ y`; false when either is not a number. -/
def atMost (x y : Binary64) : Bool :=
  match x.place?, y.place? with
  | some a, some b => a ≤ b
  | _, _ => false

/-! ### Arithmetic -/

/-- The signed value in units. -/
def signedUnits (negative : Bool) (rank : Nat) : Int :=
  if negative then -(unitsOf rank : Int) else unitsOf rank

/-- The sum, rounded once. A sum that cancels is `0`; two negative zeros stay negative. -/
def add : Binary64 → Binary64 → Binary64
  | .nan, _ => .nan
  | _, .nan => .nan
  | .infinite s, .infinite t => if s = t then .infinite s else .nan
  | .infinite s, .finite .. => .infinite s
  | .finite .., .infinite t => .infinite t
  | .finite s a _, .finite t b _ =>
    let sum := signedUnits s a + signedUnits t b
    if sum = 0 then ofRank (s && t) 0 else ofRank (sum < 0) (nearestRank sum.natAbs 1)

instance : Add Binary64 := ⟨add⟩

/-- The product with a positive natural. -/
def scale : Binary64 → Nat → Binary64
  | .nan, _ => .nan
  | .infinite s, _ => .infinite s
  | .finite s a _, n => ofRank s (nearestRank (unitsOf a * n) 1)

def divide : Binary64 → Nat → Binary64
  | .nan, _ => .nan
  | .infinite s, _ => .infinite s
  | .finite s a _, n => ofRank s (nearestRank (unitsOf a) n)

def isWhole : Binary64 → Bool
  | .finite _ a _ => unitsOf a % unitsPerOne = 0
  | _ => false

end Binary64

end SuiteForge
