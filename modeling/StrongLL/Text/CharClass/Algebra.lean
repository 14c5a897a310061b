import StrongLL.Text.CharClass

/-!
# Set algebra of character classes

Union, complement and what follows from them. The complement is taken among
the Unicode scalar values, so a range that ends below the surrogates is
followed by one that begins above them.
-/

namespace StrongLL

namespace CharClass

/-- The scalar value behind `char`, or none behind the last one. -/
def succ? (char : Char) : Option Char :=
  if char = Char.ofNat 0xD7FF then some (Char.ofNat 0xE000)
  else if char.toNat < 0x10FFFF then some (Char.ofNat (char.toNat + 1))
  else none

/-- The scalar value before `char`, or none before the first one. -/
def pred? (char : Char) : Option Char :=
  if char = Char.ofNat 0xE000 then some (Char.ofNat 0xD7FF)
  else if 0 < char.toNat then some (Char.ofNat (char.toNat - 1))
  else none

/-- The last scalar value. -/
def lastChar : Char := Char.ofNat 0x10FFFF

/-- The class of every character. -/
def all : CharClass := ofEnds [(Char.ofNat 0, lastChar)]

/-- Members of either class. -/
def union (left right : CharClass) : CharClass :=
  ofRanges (left.ranges ++ right.ranges)

/-- Ends of the gaps that `ranges` leave from the character `first` on. -/
def gaps (first : Char) : List CharRange → List (Char × Char)
  | [] => [(first, lastChar)]
  | range :: rest =>
      let behind := match succ? range.hi with
        | some next => gaps next rest
        | none => []
      match pred? range.lo with
      | some last => if first.toNat ≤ last.toNat then (first, last) :: behind else behind
      | none => behind

/-- Characters that are not members. -/
def complement (charClass : CharClass) : CharClass :=
  ofEnds (gaps (Char.ofNat 0) charClass.ranges)

/-- Members of both classes. -/
def inter (left right : CharClass) : CharClass :=
  (left.complement.union right.complement).complement

/-- Members of the first class that are not in the second. -/
def difference (left right : CharClass) : CharClass :=
  left.inter right.complement

/-- Members of exactly one of the two classes. -/
def symmetricDifference (left right : CharClass) : CharClass :=
  (left.union right).difference (left.inter right)

theorem contains_union (left right : CharClass) (char : Char) :
    (left.union right).contains char = (left.contains char || right.contains char) := by
  rw [union, contains_ofRanges, List.any_append, contains, contains,
    covers_eq_any left.normal, covers_eq_any right.normal]

end CharClass

end StrongLL
