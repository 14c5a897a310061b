import StrongLL.Text.Source

/-!
# A cursor over a source

The cursor looks any number of characters ahead and consumes from the front. It
reads a line only when a look goes beyond what is buffered. A failing read is
reported once; from then on the cursor acts as at the end of input, with what
was buffered still in place.
-/

namespace StrongLL

/-- A reading place in a source: the characters from `position` on are buffered
and not yet consumed. -/
structure Cursor where
  buffer : Array Char
  position : Nat
  source : Source

namespace Cursor

/-- The cursor at the beginning of `source`. -/
def ofSource (source : Source) : Cursor := ⟨#[], 0, source⟩

/-- The buffered characters that are not consumed yet. -/
def ahead (cursor : Cursor) : List Char :=
  cursor.buffer.toList.drop cursor.position

/-- A bound on the characters still to come, read or unread. -/
def remaining (cursor : Cursor) : Nat :=
  cursor.buffer.size - cursor.position + cursor.source.size

/-- Append a line to the buffer. Consumed characters are dropped first once
they make up at least half of it, so that each is moved only a bounded number
of times. -/
def fill (cursor : Cursor) (line : Array Char) (unread : List (Array Char)) : Cursor :=
  let source := { cursor.source with lines := unread }
  if 0 < cursor.position ∧ cursor.buffer.size / 2 ≤ cursor.position then
    ⟨cursor.buffer.extract cursor.position cursor.buffer.size ++ line, 0, source⟩
  else
    ⟨cursor.buffer ++ line, cursor.position, source⟩

/-- Read lines until the character `offset` places ahead is buffered. -/
def lookBeyond (offset : Nat) :
    (unread : List (Array Char)) → Cursor → Cursor × Except ReadFailure (Option Char)
  | [], cursor =>
      let ended := { cursor with source := .empty }
      match cursor.source.failure with
      | some failure => (ended, .error failure)
      | none => (ended, .ok none)
  | line :: unread, cursor =>
      let cursor := cursor.fill line unread
      match cursor.buffer[cursor.position + offset]? with
      | some char => (cursor, .ok (some char))
      | none => lookBeyond offset unread cursor

/-- The character `offset` places ahead, or none at the end of input. -/
def peek (cursor : Cursor) (offset : Nat) : Cursor × Except ReadFailure (Option Char) :=
  match cursor.buffer[cursor.position + offset]? with
  | some char => (cursor, .ok (some char))
  | none => lookBeyond offset cursor.source.lines cursor

/-- Take the next `count` characters, or all that are buffered if these are
fewer. -/
def consume (cursor : Cursor) (count : Nat) : Cursor × List Char :=
  let stop := min (cursor.position + count) cursor.buffer.size
  ({ cursor with position := stop },
    (cursor.buffer.extract cursor.position stop).toList)

end Cursor

end StrongLL
