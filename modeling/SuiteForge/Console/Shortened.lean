/-!
Texts cut to a number of characters, with dots where something is missing.
-/

namespace SuiteForge.Console

def ellipsis : List Char := "...".toList

/-- The start of a text that is too long. -/
def shortenEnd (limit : Nat) (s : List Char) : List Char :=
  if s.length ≤ limit then s else s.take (limit - 3) ++ ellipsis

/-- The end of a text that is too long. -/
def shortenStart (limit : Nat) (s : List Char) : List Char :=
  if s.length ≤ limit then s else ellipsis ++ s.drop (s.length - (limit - 3))

end SuiteForge.Console
