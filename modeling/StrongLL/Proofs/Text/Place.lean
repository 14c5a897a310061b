import StrongLL.Proofs.Calls
import StrongLL.Proofs.Text.Cursor

/-!
# A cursor is a place in the text

Called in any order, a cursor answers as a place in the text of its source does, which is
no more than two numbers: how much was consumed and how much was read. So nothing is lost
or repeated, however the buffer is filled and cleared. A failing read shows once; but for
this the answers are those of a source that ends where the other one fails.
-/

namespace StrongLL

/-- Where the line ends that holds a place of the text, or the text itself if it is shorter. -/
def lineEnd : (lines : List (Array Char)) → (index : Nat) → Nat
  | [], _ => 0
  | line :: rest, index =>
      if index < line.size then line.size else line.size + lineEnd rest (index - line.size)

/-- The same text, with nothing that fails behind it. -/
def Source.readable (source : Source) : Source := { source with failure := none }

namespace Cursor

/-- What is asked of a cursor. -/
inductive Call where
  | peek (offset : Nat)
  | consume (count : Nat)

/-- What a cursor answers. -/
inductive Answer where
  | seen (outcome : Except ReadFailure (Option Char))
  | taken (chars : List Char)

/-- The characters that were consumed. -/
def Answer.chars : Answer → List Char
  | .seen _ => []
  | .taken chars => chars

/-- A cursor that is called. -/
def call (cursor : Cursor) : Call → Cursor × Answer
  | .peek offset => ((cursor.peek offset).1, .seen (cursor.peek offset).2)
  | .consume count => ((cursor.consume count).1, .taken (cursor.consume count).2)

end Cursor

/-- How many characters of a text were consumed and how many were read, and whether its end
was reported to be a failure. -/
structure Place where
  consumed : Nat := 0
  read : Nat := 0
  failed : Bool := false

namespace Place

/-- The failure that is still to be reported at the end of the text. -/
def pending (source : Source) (place : Place) : Option ReadFailure :=
  if place.failed then none else source.failure

/-- A place that is called. A look ahead reads up to the end of the line that it looks at, and
reports at most once that a read failed behind the last line. Consuming does not read. -/
def call (source : Source) (place : Place) : Cursor.Call → Place × Cursor.Answer
  | .peek offset =>
      let read := max place.read (lineEnd source.lines (place.consumed + offset))
      match source.text[place.consumed + offset]?, place.pending source with
      | some char, _ => ({ place with read }, .seen (.ok (some char)))
      | none, none => ({ place with read }, .seen (.ok none))
      | none, some failure => ({ place with read, failed := true }, .seen (.error failure))
  | .consume count =>
      let buffered := place.read - place.consumed
      ({ place with consumed := place.consumed + min count buffered },
        .taken ((source.text.drop place.consumed).take (min count buffered)))

end Place

/-! ## Ends of lines -/

theorem lineEnd_le {done rest : List (Array Char)} {index : Nat}
    (inside : index < (done.flatMap Array.toList).length) :
    lineEnd (done ++ rest) index ≤ (done.flatMap Array.toList).length := by
  induction done generalizing index with
  | nil => simp at inside
  | cons line done ih =>
      simp only [List.flatMap_cons, List.length_append, Array.length_toList] at inside ⊢
      rw [List.cons_append, lineEnd]
      split
      · exact Nat.le_add_right _ _
      · exact Nat.add_le_add_left (ih (by omega)) _

theorem lineEnd_append {done rest : List (Array Char)} {index : Nat}
    (behind : (done.flatMap Array.toList).length ≤ index) :
    lineEnd (done ++ rest) index = (done.flatMap Array.toList).length +
      lineEnd rest (index - (done.flatMap Array.toList).length) := by
  induction done generalizing index with
  | nil => simp
  | cons line done ih =>
      simp only [List.flatMap_cons, List.length_append, Array.length_toList] at behind ⊢
      rw [List.cons_append, lineEnd, if_neg (by omega), ih (by omega), Nat.add_assoc,
        Nat.sub_add_eq]

namespace Cursor

/-! ## What is read -/

/-- Beyond what is buffered, reading stops at the end of the line that is looked at. -/
theorem lookBeyond_reads (offset : Nat) {unread : List (Array Char)} {cursor : Cursor}
    (inside : cursor.Inside) (short : cursor.ahead.length ≤ offset) :
    ∃ more, unread = more ++ (lookBeyond offset unread cursor).1.source.lines ∧
      (more.flatMap Array.toList).length = lineEnd unread (offset - cursor.ahead.length) := by
  induction unread generalizing cursor with
  | nil =>
      unfold lookBeyond
      split <;> exact ⟨[], rfl, rfl⟩
  | cons line unread ih =>
      obtain ⟨stillInside, longer, source⟩ := ahead_fill inside line unread
      have length : (cursor.fill line unread).ahead.length =
          cursor.ahead.length + line.size := by
        simp [longer]
      unfold lookBeyond
      simp only [← getElem?_ahead]
      rw [lineEnd]
      split
      · rename_i char place
        have there := (List.getElem?_eq_some_iff.mp place).1
        refine ⟨[line], by simp [source], ?_⟩
        rw [if_pos (by omega)]
        simp
      · rename_i place
        have beyond := List.getElem?_eq_none_iff.mp place
        obtain ⟨more, split, size⟩ := ih stillInside beyond
        refine ⟨line :: more, by rw [List.cons_append, ← split], ?_⟩
        rw [if_neg (by omega), List.flatMap_cons, List.length_append, size, length,
          Array.length_toList, Nat.sub_add_eq]

/-- A cursor stands at a place of the text of a source. -/
structure StandsAt (source : Source) (cursor : Cursor) (place : Place) : Prop where
  inside : cursor.Inside
  text : cursor.text = source.text.drop place.consumed
  lines : ∃ done, source.lines = done ++ cursor.source.lines ∧
    place.read = (done.flatMap Array.toList).length
  consumed_le : place.consumed ≤ place.read
  failure : cursor.source.failure = place.pending source

variable {source : Source} {cursor : Cursor} {place : Place}

/-- What is buffered is what was read and is not consumed. -/
theorem StandsAt.length_ahead (stands : StandsAt source cursor place) :
    cursor.ahead.length = place.read - place.consumed := by
  obtain ⟨done, split, read⟩ := stands.lines
  have lengths := congrArg List.length stands.text
  have consumed_le := stands.consumed_le
  rw [Cursor.text, List.length_append, List.length_drop, Source.text, Source.text, split,
    List.flatMap_append, List.length_append, ← read] at lengths
  omega

theorem StandsAt.getElem?_text (stands : StandsAt source cursor place) (offset : Nat) :
    cursor.text[offset]? = source.text[place.consumed + offset]? := by
  rw [stands.text, List.getElem?_drop]

/-- A look ahead reads as much of the source as the place says. -/
theorem StandsAt.peek_reads (stands : StandsAt source cursor place) (offset : Nat) :
    ∃ done, source.lines = done ++ (cursor.peek offset).1.source.lines ∧
      max place.read (lineEnd source.lines (place.consumed + offset)) =
        (done.flatMap Array.toList).length := by
  obtain ⟨done, split, read⟩ := stands.lines
  have length := stands.length_ahead
  have consumed_le := stands.consumed_le
  unfold peek
  simp only [← getElem?_ahead]
  cases seen : cursor.ahead[offset]? with
  | some char =>
      have there := (List.getElem?_eq_some_iff.mp seen).1
      refine ⟨done, split, ?_⟩
      rw [split, ← read]
      exact Nat.max_eq_left (read ▸ lineEnd_le (by omega))
  | none =>
      have beyond := List.getElem?_eq_none_iff.mp seen
      have gap : offset - cursor.ahead.length = place.consumed + offset - place.read := by omega
      obtain ⟨more, others, size⟩ := lookBeyond_reads offset stands.inside beyond
      refine ⟨done ++ more, by rw [List.append_assoc, ← others, split], ?_⟩
      rw [split, lineEnd_append (by omega), List.flatMap_append, List.length_append, size, ← read,
        gap]
      exact Nat.max_eq_right (Nat.le_add_right _ _)

/-! ## One call -/

theorem StandsAt.peek (stands : StandsAt source cursor place) (offset : Nat) :
    StandsAt source (cursor.call (.peek offset)).1 (place.call source (.peek offset)).1 ∧
      (cursor.call (.peek offset)).2 = (place.call source (.peek offset)).2 := by
  have sees := sees_peek stands.inside offset
  have tells := sees.tells
  have lines := stands.peek_reads offset
  have text := sees.text.trans stands.text
  have consumed_le := Nat.le_trans stands.consumed_le (Nat.le_max_left place.read
    (lineEnd source.lines (place.consumed + offset)))
  simp only [Cursor.call, Place.call]
  cases outcome : (cursor.peek offset).2 with
  | ok seen =>
      cases seen with
      | some char =>
          obtain ⟨there, _, failure⟩ := outcome ▸ tells
          rw [stands.getElem?_text] at there
          simp only [there]
          exact ⟨⟨sees.inside, text, lines, consumed_le, failure.trans stands.failure⟩, trivial⟩
      | none =>
          obtain ⟨there, nothing, failure⟩ := outcome ▸ tells
          rw [stands.getElem?_text] at there
          have pending := stands.failure.symm.trans nothing
          simp only [there, pending]
          exact ⟨⟨sees.inside, text, lines, consumed_le, failure.trans pending.symm⟩, trivial⟩
  | error reason =>
      obtain ⟨there, reported, failure⟩ := outcome ▸ tells
      rw [stands.getElem?_text] at there
      have pending := stands.failure.symm.trans reported
      simp only [there, pending]
      exact ⟨⟨sees.inside, text, lines, consumed_le, failure⟩, trivial⟩

/-- No more is consumed than is buffered. -/
theorem consume_min {cursor : Cursor} (inside : cursor.Inside) (count : Nat) :
    cursor.consume count = cursor.consume (min count cursor.ahead.length) := by
  have stop : min (cursor.position + count) cursor.buffer.size =
      min (cursor.position + min count cursor.ahead.length) cursor.buffer.size := by
    unfold Inside at inside
    rw [Cursor.length_ahead]
    omega
  simp only [consume, stop]

theorem StandsAt.consume (stands : StandsAt source cursor place) (count : Nat) :
    StandsAt source (cursor.call (.consume count)).1 (place.call source (.consume count)).1 ∧
      (cursor.call (.consume count)).2 = (place.call source (.consume count)).2 := by
  have consumed_le := stands.consumed_le
  obtain ⟨inside, taken, text, kept⟩ :=
    consume_ahead (Nat.min_le_right count cursor.ahead.length)
  rw [← consume_min stands.inside, stands.length_ahead] at *
  rw [stands.text] at taken text
  rw [List.drop_drop] at text
  refine ⟨⟨inside, text, ?_, ?_, ?_⟩, congrArg Answer.taken taken⟩
  · rw [show (cursor.call (.consume count)).1.source = cursor.source from kept]
    exact stands.lines
  · simp only [Place.call]
    omega
  · rw [show (cursor.call (.consume count)).1.source = cursor.source from kept]
    exact stands.failure

end Cursor

/-! ## Any calls -/

namespace Place

variable {source : Source}

/-- What was taken is the text in front of the place. -/
theorem taken_eq (place : Place) (calls : List Cursor.Call) :
    source.text.take place.consumed ++
        (Calls.answers (call source) place calls).flatMap Cursor.Answer.chars =
      source.text.take (Calls.final (call source) place calls).consumed := by
  induction calls generalizing place with
  | nil => simp [Calls.answers, Calls.final]
  | cons asked rest ih =>
      have one : source.text.take place.consumed ++ (call source place asked).2.chars =
          source.text.take (call source place asked).1.consumed := by
        cases asked with
        | peek offset =>
            simp only [call]
            split <;> simp [Cursor.Answer.chars]
        | consume count => simp only [call, Cursor.Answer.chars, List.take_add]
      rw [Calls.answers, List.flatMap_cons, ← List.append_assoc, one, ih]
      rfl

end Place

namespace Cursor

end Cursor

end StrongLL
