namespace GrammarCorpus

/-!
# Ranges of code points

A class of characters is given by ranges of code points in increasing order, so a search
ends as soon as a range lies behind the point.
-/

namespace Text

/-- Whether a code point lies in one of some ranges, which are in increasing order. -/
def inRanges (point : Nat) : List (Nat × Nat) → Bool
  | [] => false
  | (first, last) :: ranges =>
      if point < first then false
      else if point ≤ last then true
      else inRanges point ranges

end Text

end GrammarCorpus
