/-!
Sets of characters given as ranges of code points.
-/

namespace AnswerGraph.Text

/-- Whether a character lies in one of the ranges, ends included. -/
def inRanges (ranges : List (Nat × Nat)) (c : Char) : Bool :=
  ranges.any fun (first, last) => first ≤ c.toNat && c.toNat ≤ last

end AnswerGraph.Text
