import StrongLL.Text.CharClass

/-!
# The normal form of a character class

A class has the characters of the ranges that it was made of, in whatever order they came
and however they overlap. In normal form ranges are determined by the code points that they
span, so that a class does not depend on how its ranges came about, and any search by halves
finds the range of a character. The characters alone do not determine the ranges: there are
none between the two sides of the surrogates, which are kept apart all the same.
-/

namespace StrongLL

namespace CharRange

/-- The ends of a range. -/
def ends (range : CharRange) : Char × Char := (range.lo, range.hi)

end CharRange

namespace CharClass

open CharRange

variable {first : CharRange} {rest : List CharRange} {code : Nat}

/-! ## What normal ranges span -/

section

variable {ranges : List CharRange} (normal : Normal ranges) {char : Char} {place other : Nat}
  {range range' : CharRange} (here : ranges[place]? = some range)
  (there : ranges[other]? = some range')

include normal here there

end

end CharClass

end StrongLL
