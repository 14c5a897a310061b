import StrongLL.Text.CharClass.Algebra

/-!
# Tables of code points

The notation of the character tables. Entries stand in ascending order with
blanks between them, code points in upper case hexadecimal. A range is written
`41-5A`, a single code point `AA`. In a map `41-5A>61` sends a range to the one
that begins at `61`, and `100-12E/2>101` does so for every second code point.
Characters that belong together are written `4B=6B=212A`.
-/

namespace StrongLL.Unicode.RangeTable

/-- The pieces of `text` between separators. -/
def splitAt (separator : Char) : (text : List Char) → List (List Char)
  | [] => [[]]
  | char :: rest =>
      match splitAt separator rest with
      | [] => [[char]]
      | piece :: pieces =>
          if char = separator then [] :: piece :: pieces else (char :: piece) :: pieces

/-- The entries of a table. -/
def entries (text : String) : List (List Char) :=
  (splitAt ' ' (text.toList.map fun char => if char = '\n' then ' ' else char)).filter
    (!·.isEmpty)

/-- The value of an upper case hexadecimal digit. -/
def hexValue (digit : Char) : Nat :=
  if digit.isDigit then digit.toNat - '0'.toNat else digit.toNat - 'A'.toNat + 10

/-- The number that hexadecimal digits denote. -/
def hexNumber (digits : List Char) : Nat :=
  digits.foldl (fun value digit => value * 16 + hexValue digit) 0

/-- The ends of a range. -/
def ends (entry : List Char) : Nat × Nat :=
  match splitAt '-' entry with
  | [lo, hi] => (hexNumber lo, hexNumber hi)
  | _ => (hexNumber entry, hexNumber entry)

/-- The class that a table of ranges describes. -/
def charClass (text : String) : CharClass :=
  .ofEnds ((entries text).map fun entry =>
    let (lo, hi) := ends entry
    (Char.ofNat lo, Char.ofNat hi))

/-- Part of a map: each `stride`-th code point from `first` to `last` goes to
the code point equally far behind `target`. -/
structure Run where
  first : Nat
  last : Nat
  stride : Nat
  target : Nat
  deriving Repr

namespace Run

/-- Whether the run moves the code point. -/
def moves (run : Run) (code : Nat) : Bool :=
  run.first ≤ code && code ≤ run.last && (code - run.first) % run.stride == 0

/-- Where the run sends a code point that it moves. -/
def image (run : Run) (code : Nat) : Nat := run.target + (code - run.first)

/-- One entry of a map. -/
def ofEntry (entry : List Char) : Run :=
  match splitAt '>' entry with
  | [origin, target] =>
      match splitAt '/' origin with
      | [range, stride] =>
          let (first, last) := ends range
          ⟨first, last, hexNumber stride, hexNumber target⟩
      | _ =>
          let (first, last) := ends origin
          ⟨first, last, 1, hexNumber target⟩
  | _ => ⟨0, 0, 1, 0⟩

/-- The code points that the run moves. -/
def domain (run : Run) : List Nat :=
  (List.range (run.last - run.first + 1)).filterMap fun step =>
    if step % run.stride == 0 then some (run.first + step) else none

end Run

/-- The map that a table describes. -/
def runs (text : String) : List Run := (entries text).map Run.ofEntry

/-- Where a map sends a character, if it moves it. -/
def image? (runs : List Run) (char : Char) : Option Char :=
  (runs.find? (·.moves char.toNat)).map fun run => Char.ofNat (run.image char.toNat)

/-- The map that a table describes, as pairs. -/
def pairs (text : String) : List (List Char) :=
  (runs text).flatMap fun run =>
    run.domain.map fun code => [Char.ofNat code, Char.ofNat (run.image code)]

/-- The groups that a table lists. -/
def groups (text : String) : List (List Char) :=
  (entries text).map fun entry =>
    (splitAt '=' entry).map fun code => Char.ofNat (hexNumber code)

end StrongLL.Unicode.RangeTable
