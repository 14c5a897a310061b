/-!
# Occurrence bounds

How often an element of a rule may stand in a row.
-/

namespace StrongLL

/-- From `min` to `max` times; without `max` there is no upper bound. -/
structure Occurs where
  min : Nat
  max : Option Nat
  deriving DecidableEq, Repr

namespace Occurs

/-- Exactly once. -/
def once : Occurs := ⟨1, some 1⟩

/-- At most once. -/
def optional : Occurs := ⟨0, some 1⟩

/-- Any number of times. -/
def zeroOrMore : Occurs := ⟨0, none⟩

/-- Any number of times, but at least once. -/
def oneOrMore : Occurs := ⟨1, none⟩

instance : Inhabited Occurs := ⟨once⟩

/-- Whether the bounds admit exactly one occurrence. -/
def isOnce (occurs : Occurs) : Bool := occurs == once

/-- Whether some positive number of occurrences lies within the bounds. -/
def isValid (occurs : Occurs) : Bool :=
  match occurs.max with
  | some max => 1 ≤ max && occurs.min ≤ max
  | none => true

/-- Whether the bounds leave a choice. -/
def isVariable (occurs : Occurs) : Bool := occurs.max != some occurs.min

/-- Whether `count` occurrences reach the upper bound. -/
def isFull (occurs : Occurs) (count : Nat) : Bool :=
  match occurs.max with
  | some max => max ≤ count
  | none => false

/-- Whether `count` occurrences lie within the bounds. -/
def Admits (occurs : Occurs) (count : Nat) : Prop :=
  occurs.min ≤ count ∧ ∀ max ∈ occurs.max, count ≤ max

/-- The bounds in EBNF notation; nothing for exactly once. -/
def text : Occurs → String
  | ⟨1, some 1⟩ => ""
  | ⟨0, some 1⟩ => "?"
  | ⟨0, none⟩ => "*"
  | ⟨1, none⟩ => "+"
  | ⟨min, none⟩ => "\x7b" ++ toString min ++ ",\x7d"
  | ⟨min, some max⟩ => "\x7b" ++ toString min ++ "," ++ toString max ++ "\x7d"

end Occurs

end StrongLL
