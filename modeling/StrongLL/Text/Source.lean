/-!
# Sources of text

A source delivers its text line by line and then either ends or fails. A line
keeps its line feed; only the last one may lack it. Bytes that come from
outside are decoded line by line, so a line that is not UTF-8 is a failure of
that line alone, and the lines before it are delivered.
-/

namespace StrongLL

/-- Why a source could not deliver a line. -/
inductive ReadFailure where
  | notUtf8
  | device (info : String)
  deriving DecidableEq, Repr

/-- The wording of a failed read. -/
def ReadFailure.message : ReadFailure → String
  | .notUtf8 => "stream did not contain valid UTF-8"
  | .device info => info

/-- A text that is read line by line. After the last line the source ends, or
fails once and ends then. -/
structure Source where
  lines : List (Array Char)
  failure : Option ReadFailure
  deriving DecidableEq

/-- Cut a list behind every `stop`. The second part is what follows the last
`stop`; `current` holds the open line in reverse. -/
def splitLines {α : Type} [DecidableEq α] (stop : α) :
    (current : List α) → List α → List (List α) × List α
  | current, [] => ([], current.reverse)
  | current, item :: rest =>
      if item = stop then
        let (complete, last) := splitLines stop [] rest
        ((item :: current).reverse :: complete, last)
      else
        splitLines stop (item :: current) rest

/-- Cutting into lines loses nothing. -/
theorem splitLines_flatten {α : Type} [DecidableEq α] (stop : α) (current items : List α) :
    (splitLines stop current items).1.flatten ++ (splitLines stop current items).2 =
      current.reverse ++ items := by
  induction items generalizing current with
  | nil => simp [splitLines]
  | cons item rest ih =>
      unfold splitLines
      split
      · simp [List.append_assoc, ih []]
      · simp [ih]

namespace Source

/-- The source without any text. -/
def empty : Source := ⟨[], none⟩

/-- The source that delivers `text` and ends. -/
def ofText (text : List Char) : Source :=
  let (complete, last) := splitLines '\n' [] text
  let lines := if last.isEmpty then complete else complete ++ [last]
  ⟨lines.map List.toArray, none⟩

/-- The source that delivers `text` and ends. -/
def ofString (text : String) : Source := ofText text.toList

/-- Decode lines up to the first that is not UTF-8. `failure` is what happens
behind the last line. -/
def decodeLines (failure : Option ReadFailure) : List (List UInt8) → Source
  | [] => ⟨[], failure⟩
  | line :: rest =>
      match String.fromUTF8? ⟨line.toArray⟩ with
      | none => ⟨[], some .notUtf8⟩
      | some text =>
          let source := decodeLines failure rest
          { source with lines := text.toList.toArray :: source.lines }

/-- The source of a stream of bytes. A stream that breaks off with an error
loses the line that was being read. -/
def ofBytes (bytes : List UInt8) (failure : Option ReadFailure) : Source :=
  let (complete, last) := splitLines 10 [] bytes
  let lines := if last.isEmpty || failure.isSome then complete else complete ++ [last]
  decodeLines failure lines

/-- Number of characters that the source can deliver. -/
def size (source : Source) : Nat :=
  source.lines.foldl (fun total line => total + line.size) 0

end Source

end StrongLL
