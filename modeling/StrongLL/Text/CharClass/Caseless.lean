import StrongLL.Unicode.Case

/-!
# Classes without regard to case

A literal that is matched without regard to case accepts the one-character
lower and upper case forms of each character. A regular expression accepts all
that folds together, which is more.
-/

namespace StrongLL.CharClass

open Unicode

/-- `char` and its lower and upper case forms, as far as these are single
characters. -/
def caseless (char : Char) : CharClass :=
  ofRanges ((char :: (Case.lower? char).toList ++ (Case.upper? char).toList).map .single)

/-- The class with all characters that fold together with a member. -/
def foldCase (charClass : CharClass) : CharClass :=
  let added := (Case.folds.filter fun group => group.any charClass.contains).flatten
  charClass.union (ofRanges (added.map .single))

end StrongLL.CharClass
