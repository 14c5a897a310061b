/-!
# Character classes

A class is a set of characters held as a list of ranges in its normal form:
ascending, with at least one code point strictly between neighbours. Each set
that is a finite union of ranges has one normal form, and `absorb` keeps it.
-/

namespace StrongLL

/-- All characters from `lo` to `hi`, both included. -/
structure CharRange where
  lo : Char
  hi : Char
  lo_le_hi : lo.toNat ≤ hi.toNat := by decide
  deriving DecidableEq, Repr

namespace CharRange

/-- The range of one character. -/
def single (char : Char) : CharRange := ⟨char, char, Nat.le_refl _⟩

/-- The range with these ends, or none when they are in the wrong order. -/
def ofEnds? (ends : Char × Char) : Option CharRange :=
  if ordered : ends.1.toNat ≤ ends.2.toNat then some ⟨ends.1, ends.2, ordered⟩ else none

/-- Whether `char` lies between the ends. -/
def contains (range : CharRange) (char : Char) : Bool :=
  decide (range.lo.toNat ≤ char.toNat) && decide (char.toNat ≤ range.hi.toNat)

/-- Some code point lies strictly between the end of `left` and the beginning
of `right`. -/
def Apart (left right : CharRange) : Prop :=
  left.hi.toNat + 1 < right.lo.toNat

instance (left right : CharRange) : Decidable (Apart left right) :=
  inferInstanceAs (Decidable (_ < _))

/-- The least range that covers both. -/
def hull (left right : CharRange) : CharRange where
  lo := if left.lo.toNat ≤ right.lo.toNat then left.lo else right.lo
  hi := if left.hi.toNat ≤ right.hi.toNat then right.hi else left.hi
  lo_le_hi := by
    have := left.lo_le_hi
    have := right.lo_le_hi
    split <;> split <;> omega

/-- The code point `code` lies between the ends. -/
def Spans (range : CharRange) (code : Nat) : Prop :=
  range.lo.toNat ≤ code ∧ code ≤ range.hi.toNat

theorem contains_iff {range : CharRange} {char : Char} :
    range.contains char = true ↔ range.Spans char.toNat := by
  simp [contains, Spans]

/-- Two ranges with no code point between them span together what their hull
spans. -/
theorem spans_hull {left right : CharRange} (leftNear : ¬ Apart left right)
    (rightNear : ¬ Apart right left) {code : Nat} :
    (left.hull right).Spans code ↔ left.Spans code ∨ right.Spans code := by
  have := left.lo_le_hi
  have := right.lo_le_hi
  simp only [Apart] at leftNear rightNear
  simp only [Spans, hull]
  split <;> split <;> omega

end CharRange

/-- Ranges in normal form: each lies apart from all behind it. -/
abbrev CharRange.Normal (ranges : List CharRange) : Prop :=
  ranges.Pairwise CharRange.Apart

/-- A set of characters. -/
structure CharClass where
  ranges : List CharRange
  normal : CharRange.Normal ranges := by decide
  deriving DecidableEq

namespace CharClass

open CharRange (Apart)

/-- Add a range to a list in normal form, merging it with the ranges that it
touches. -/
def absorb (range : CharRange) : List CharRange → List CharRange
  | [] => [range]
  | first :: rest =>
      if Apart range first then range :: first :: rest
      else if Apart first range then first :: absorb range rest
      else absorb (range.hull first) rest

theorem mem_absorb (bound : Nat) {added : CharRange} {ranges : List CharRange}
    (addedAbove : bound < added.lo.toNat)
    (above : ∀ range ∈ ranges, bound < range.lo.toNat) :
    ∀ range ∈ absorb added ranges, bound < range.lo.toNat := by
  induction ranges generalizing added with
  | nil => simpa [absorb] using addedAbove
  | cons first rest ih =>
      have firstAbove : bound < first.lo.toNat := above first (by simp)
      have restAbove : ∀ range ∈ rest, bound < range.lo.toNat :=
        fun range member => above range (by simp [member])
      unfold absorb
      split
      · intro range member
        rcases List.mem_cons.mp member with rfl | member
        · exact addedAbove
        · exact above range member
      · split
        · intro range member
          rcases List.mem_cons.mp member with rfl | member
          · exact firstAbove
          · exact ih addedAbove restAbove range member
        · apply ih _ restAbove
          simp only [CharRange.hull]
          split <;> assumption

theorem absorb_normal {added : CharRange} {ranges : List CharRange} (normal : CharRange.Normal ranges) :
    CharRange.Normal (absorb added ranges) := by
  induction ranges generalizing added with
  | nil => simp [absorb, CharRange.Normal]
  | cons first rest ih =>
      obtain ⟨firstApart, restNormal⟩ := List.pairwise_cons.mp normal
      unfold absorb
      split
      · rename_i apart
        refine List.pairwise_cons.mpr ⟨fun range member => ?_, normal⟩
        rcases List.mem_cons.mp member with rfl | member
        · exact apart
        · have := first.lo_le_hi
          have := firstApart range member
          simp only [Apart] at *
          omega
      · split
        · rename_i apart
          refine List.pairwise_cons.mpr ⟨?_, ih restNormal⟩
          intro range member
          exact mem_absorb (first.hi.toNat + 1) apart firstApart range member
        · exact ih restNormal

/-- The class that covers every one of `ranges`, which may overlap and come in
any order. -/
def ofRanges (ranges : List CharRange) : CharClass where
  ranges := ranges.foldr absorb []
  normal := by
    induction ranges with
    | nil => exact .nil
    | cons range rest ih => exact absorb_normal ih

/-- The class that covers every pair of ends; a pair in the wrong order covers
nothing. -/
def ofEnds (ends : List (Char × Char)) : CharClass :=
  ofRanges (ends.filterMap CharRange.ofEnds?)

/-- The class without members. -/
def empty : CharClass := ⟨[], .nil⟩

/-- The class of one character. -/
def single (char : Char) : CharClass := ⟨[.single char], List.pairwise_singleton _ _⟩

/-- Whether the class has no member. -/
def isEmpty (charClass : CharClass) : Bool := charClass.ranges.isEmpty

/-- Membership in a list in normal form: the search ends at the first range
that lies wholly behind `char`. -/
def covers (char : Char) : List CharRange → Bool
  | [] => false
  | range :: rest =>
      if char.toNat < range.lo.toNat then false
      else if char.toNat ≤ range.hi.toNat then true
      else covers char rest

/-- Whether `char` is a member. -/
def contains (charClass : CharClass) (char : Char) : Bool :=
  covers char charClass.ranges

theorem covers_eq_any {char : Char} {ranges : List CharRange} (normal : CharRange.Normal ranges) :
    covers char ranges = ranges.any (·.contains char) := by
  induction ranges with
  | nil => rfl
  | cons first rest ih =>
      obtain ⟨firstApart, restNormal⟩ := List.pairwise_cons.mp normal
      have order := first.lo_le_hi
      simp only [covers, List.any_cons, ih restNormal, CharRange.contains]
      split
      · rename_i before
        rw [eq_comm, Bool.or_eq_false_iff]
        refine ⟨by simp; omega, ?_⟩
        simp only [List.any_eq_false, Bool.and_eq_true, decide_eq_true_eq, not_and]
        intro range member
        have := firstApart range member
        simp only [Apart] at this
        omega
      · split
        · rename_i above below
          simp [below, Nat.le_of_not_lt above]
        · rename_i above below
          simp [below]

/-- The code point `code` lies in one of the ranges. -/
def Spanned (ranges : List CharRange) (code : Nat) : Prop :=
  ∃ range ∈ ranges, range.Spans code

theorem spanned_cons {range : CharRange} {rest : List CharRange} {code : Nat} :
    Spanned (range :: rest) code ↔ range.Spans code ∨ Spanned rest code := by
  simp [Spanned]

theorem spanned_absorb {added : CharRange} {ranges : List CharRange} {code : Nat} :
    Spanned (absorb added ranges) code ↔ added.Spans code ∨ Spanned ranges code := by
  induction ranges generalizing added with
  | nil => simp [absorb, Spanned]
  | cons first rest ih =>
      unfold absorb
      split
      · exact spanned_cons
      · split
        · rw [spanned_cons, ih, spanned_cons, or_left_comm]
        · rename_i left right
          rw [ih, CharRange.spans_hull left right, spanned_cons, or_assoc]

/-- A class built from ranges spans exactly their code points. -/
theorem spanned_ofRanges {ranges : List CharRange} {code : Nat} :
    Spanned (ofRanges ranges).ranges code ↔ Spanned ranges code := by
  simp only [ofRanges]
  induction ranges with
  | nil => rfl
  | cons range rest ih => rw [List.foldr_cons, spanned_absorb, ih, spanned_cons]

/-- A class has the characters whose code points its ranges span. -/
theorem contains_iff_spanned {charClass : CharClass} {char : Char} :
    charClass.contains char = true ↔ Spanned charClass.ranges char.toNat := by
  simp only [contains, covers_eq_any charClass.normal, List.any_eq_true,
    CharRange.contains_iff, Spanned]

/-- A class built from ranges has exactly their characters. -/
theorem contains_ofRanges (ranges : List CharRange) (char : Char) :
    (ofRanges ranges).contains char = ranges.any (·.contains char) := by
  rw [Bool.eq_iff_iff, contains_iff_spanned, spanned_ofRanges]
  simp only [List.any_eq_true, CharRange.contains_iff, Spanned]

end CharClass

end StrongLL
