import StrongLL.Proofs.Scanner

/-!
# The text ahead of a cursor

A cursor is the text that is still to come, no matter how much of it is buffered and what
was dropped from the buffer. A look ahead answers the character of this text at its place,
and consuming cuts off its beginning.
-/

namespace StrongLL

/-- All text that a source delivers. -/
def Source.text (source : Source) : List Char := source.lines.flatMap Array.toList

theorem Source.length_text (source : Source) : source.text.length = source.size := by
  obtain ⟨lines, failure⟩ := source
  induction lines with
  | nil => rfl
  | cons line unread ih =>
      rw [Cursor.size_cons, ← ih]
      simp [text]

namespace Cursor

/-- All text that is still to come, buffered or not. -/
def text (cursor : Cursor) : List Char := cursor.ahead ++ cursor.source.text

/-- The reading place is not behind the buffer. -/
def Inside (cursor : Cursor) : Prop := cursor.position ≤ cursor.buffer.size

theorem inside_ofSource (source : Source) : (ofSource source).Inside := Nat.le_refl 0

@[simp] theorem text_ofSource (source : Source) : (ofSource source).text = source.text := by
  simp [text, ahead, ofSource]

theorem length_ahead (cursor : Cursor) :
    cursor.ahead.length = cursor.buffer.size - cursor.position := by
  simp [ahead]

theorem getElem?_ahead (cursor : Cursor) (offset : Nat) :
    cursor.ahead[offset]? = cursor.buffer[cursor.position + offset]? := by
  simp [ahead]

theorem length_text (cursor : Cursor) : cursor.text.length = cursor.remaining := by
  rw [text, List.length_append, length_ahead, remaining, Source.length_text]

/-! ## Looking ahead -/

/-- A line that is read goes behind what is buffered, also when the buffer is cleared of
what was consumed. -/
theorem ahead_fill {cursor : Cursor} (inside : cursor.Inside) (line : Array Char)
    (unread : List (Array Char)) : (cursor.fill line unread).Inside ∧
      (cursor.fill line unread).ahead = cursor.ahead ++ line.toList ∧
        (cursor.fill line unread).source = { cursor.source with lines := unread } := by
  unfold Inside at inside
  unfold fill Inside ahead
  simp only
  split
  · refine ⟨Nat.zero_le _, ?_, rfl⟩
    have all : (cursor.buffer.toList.drop cursor.position).take
        (cursor.buffer.size - cursor.position) = cursor.buffer.toList.drop cursor.position :=
      List.take_of_length_le (by simp)
    simp [all]
  · refine ⟨?_, ?_, rfl⟩
    · simp only [Array.size_append]
      omega
    · rw [Array.toList_append, List.drop_append_of_le_length (by simpa using inside)]

/-- What an answer says about the text, and what it leaves of the failure of the source. -/
def Tells (before : Cursor) (offset : Nat) (after : Cursor) :
    Except ReadFailure (Option Char) → Prop
  | .ok (some char) => before.text[offset]? = some char ∧ offset < after.ahead.length ∧
      after.source.failure = before.source.failure
  | .ok none => before.text[offset]? = none ∧ before.source.failure = none ∧
      after.source.failure = none
  | .error failure => before.text[offset]? = none ∧ before.source.failure = some failure ∧
      after.source.failure = none

/-- What a look ahead answers, and what it leaves. -/
structure Sees (before : Cursor) (offset : Nat) (after : Cursor)
    (answer : Except ReadFailure (Option Char)) : Prop where
  inside : after.Inside
  text : after.text = before.text
  ahead : before.ahead <+: after.ahead
  tells : Tells before offset after answer

theorem Sees.behind {first before after : Cursor} {offset : Nat}
    {answer : Except ReadFailure (Option Char)} (sees : Sees before offset after answer)
    (text : before.text = first.text) (ahead : first.ahead <+: before.ahead)
    (failure : before.source.failure = first.source.failure) :
    Sees first offset after answer := by
  refine ⟨sees.inside, sees.text.trans text, ahead.trans sees.ahead, ?_⟩
  have tells := sees.tells
  match answer with
  | .ok (some char) => exact ⟨text ▸ tells.1, tells.2.1, tells.2.2.trans failure⟩
  | .ok none => exact ⟨text ▸ tells.1, failure ▸ tells.2.1, tells.2.2⟩
  | .error reason => exact ⟨text ▸ tells.1, failure ▸ tells.2.1, tells.2.2⟩

/-- With a character that is seen the text in front of it is one longer. -/
theorem Sees.take_succ {before after : Cursor} {offset : Nat} {char : Char}
    (sees : Sees before offset after (.ok (some char))) :
    before.text.take offset ++ [char] = after.text.take (offset + 1) := by
  rw [sees.text, List.take_add_one, sees.tells.1, Option.toList_some]

/-- A character that is buffered is seen at once. -/
theorem sees_ahead {cursor : Cursor} (inside : cursor.Inside) {offset : Nat} {char : Char}
    (place : cursor.ahead[offset]? = some char) :
    Sees cursor offset cursor (.ok (some char)) := by
  have buffered : offset < cursor.ahead.length := (List.getElem?_eq_some_iff.mp place).1
  refine ⟨inside, rfl, List.prefix_refl _, ?_, buffered, rfl⟩
  rw [text, List.getElem?_append_left buffered, place]

theorem sees_lookBeyond (offset : Nat) {unread : List (Array Char)} {cursor : Cursor}
    (inside : cursor.Inside) (lines : cursor.source.lines = unread)
    (short : cursor.ahead.length ≤ offset) :
    Sees cursor offset (lookBeyond offset unread cursor).1
      (lookBeyond offset unread cursor).2 := by
  induction unread generalizing cursor with
  | nil =>
      have whole : cursor.text = cursor.ahead := by simp [text, Source.text, lines]
      have ended : Cursor.text { cursor with source := .empty } = cursor.text := by
        simp [text, Source.text, lines, ahead, Source.empty]
      have nothing : cursor.text[offset]? = none := List.getElem?_eq_none (whole ▸ short)
      unfold lookBeyond
      cases failure : cursor.source.failure with
      | none => exact ⟨inside, ended, List.prefix_refl _, nothing, failure, rfl⟩
      | some reason => exact ⟨inside, ended, List.prefix_refl _, nothing, failure, rfl⟩
  | cons line unread ih =>
      obtain ⟨stillInside, longer, source⟩ := ahead_fill inside line unread
      have same : (cursor.fill line unread).text = cursor.text := by
        simp [text, Source.text, longer, source, lines]
      have grows : cursor.ahead <+: (cursor.fill line unread).ahead :=
        ⟨line.toList, longer.symm⟩
      have failure : (cursor.fill line unread).source.failure = cursor.source.failure := by
        rw [source]
      unfold lookBeyond
      simp only [← getElem?_ahead]
      split
      · rename_i char place
        exact (sees_ahead stillInside place).behind same grows failure
      · rename_i place
        have unseen : (cursor.fill line unread).ahead.length ≤ offset :=
          List.getElem?_eq_none_iff.mp place
        exact (ih stillInside (by rw [source]) unseen).behind same grows failure

/-- A look ahead answers the character at its place of the text, or that the text ends
before, which a source that fails reports once. -/
theorem sees_peek {cursor : Cursor} (inside : cursor.Inside) (offset : Nat) :
    Sees cursor offset (cursor.peek offset).1 (cursor.peek offset).2 := by
  unfold peek
  simp only [← getElem?_ahead]
  split
  · rename_i char place
    exact sees_ahead inside place
  · rename_i place
    exact sees_lookBeyond offset inside rfl (List.getElem?_eq_none_iff.mp place)

/-! ## Consuming -/

/-- Consuming cuts buffered characters off the text. -/
theorem consume_ahead {cursor : Cursor} {count : Nat}
    (buffered : count ≤ cursor.ahead.length) :
    (cursor.consume count).1.Inside ∧ (cursor.consume count).2 = cursor.text.take count ∧
      (cursor.consume count).1.text = cursor.text.drop count ∧
        (cursor.consume count).1.source = cursor.source := by
  have room := buffered
  rw [length_ahead] at room
  refine ⟨Nat.min_le_right _ _, ?_, ?_, rfl⟩
  · rw [text, List.take_append_of_le_length buffered]
    simp only [consume, ahead]
    rcases Nat.eq_zero_or_pos count with rfl | positive
    · simp [List.extract_eq_take_drop, Nat.sub_eq_zero_of_le (Nat.min_le_left _ _)]
    · have stop : min (cursor.position + count) cursor.buffer.size = cursor.position + count := by
        omega
      simp [stop, List.extract_eq_take_drop]
  · rw [text, text, List.drop_append_of_le_length buffered]
    simp only [consume, ahead, List.drop_drop]
    congr 1
    rcases Nat.eq_zero_or_pos count with rfl | positive
    · rcases Nat.le_total cursor.position cursor.buffer.size with inside | outside
      · rw [Nat.add_zero, Nat.min_eq_left inside]
      · rw [Nat.add_zero, Nat.min_eq_right outside, List.drop_eq_nil_of_le (by simp),
          List.drop_eq_nil_of_le (by simpa using outside)]
    · rw [Nat.min_eq_left (by omega)]

end Cursor

end StrongLL
