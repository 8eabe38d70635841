/-!
Sets of characters, code points or bytes, as lists of ranges with both ends in them.
-/

namespace SuiteForge.Text

def inRanges [LE α] [DecidableLE α] (ranges : List (α × α)) (a : α) : Bool :=
  ranges.any fun (first, last) => first ≤ a && a ≤ last

end SuiteForge.Text
