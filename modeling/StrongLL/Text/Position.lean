/-!
# Positions in a text

A position names the place before a character: the line and the column, both
counted from one in characters, and the offset, counted from zero in bytes of
the UTF-8 form.
-/

namespace StrongLL

/-- A place in a text. -/
structure Position where
  line : Nat
  column : Nat
  offset : Nat
  deriving DecidableEq, Repr

namespace Position

/-- The place before the first character. -/
def start : Position := ⟨1, 1, 0⟩

/-- The place behind `char`, which stands at `position`. Only a line feed
starts a new line. -/
def advance (position : Position) (char : Char) : Position :=
  if char = '\n' then
    { line := position.line + 1, column := 1, offset := position.offset + char.utf8Size }
  else
    { position with
      column := position.column + 1, offset := position.offset + char.utf8Size }

/-- The place behind `text`, which begins at `position`. -/
def advanceBy (position : Position) (text : List Char) : Position :=
  text.foldl advance position

@[simp] theorem advanceBy_nil (position : Position) : position.advanceBy [] = position := rfl

@[simp] theorem advanceBy_cons (position : Position) (char : Char) (text : List Char) :
    position.advanceBy (char :: text) = (position.advance char).advanceBy text := rfl

@[simp] theorem advanceBy_append (position : Position) (left right : List Char) :
    position.advanceBy (left ++ right) = (position.advanceBy left).advanceBy right :=
  List.foldl_append

/-- The place behind each character of `text` in turn. -/
def trail (position : Position) : (text : List Char) → List Position
  | [] => []
  | char :: rest => position.advance char :: (position.advance char).trail rest

@[simp] theorem trail_length (position : Position) (text : List Char) :
    (position.trail text).length = text.length := by
  induction text generalizing position with
  | nil => rfl
  | cons char rest ih => simp [trail, ih]

end Position

end StrongLL
