import Mathlib.Data.List.Basic
import StrongLL.Automaton.GenerationQueue

/-!
# Queues of two generations as lists

A queue is the list of its current generation and the list of its next one. What each
operation does to the two lists is all that a simulation relies on; that the buffer is
reused and shifted does not show.
-/

namespace StrongLL.GenerationQueue

variable {α : Type}

theorem getElem?_current (queue : GenerationQueue α) (index : Nat) :
    queue.current[index]? =
      if queue.first + index < queue.mark then queue.buffer[queue.first + index]? else none := by
  simp [current, List.getElem?_take]

theorem getElem?_next (queue : GenerationQueue α) (index : Nat) :
    queue.next[index]? =
      if queue.mark + index < queue.last then queue.buffer[queue.mark + index]? else none := by
  simp [next, List.getElem?_take]

theorem length_current (queue : GenerationQueue α) :
    queue.current.length = queue.mark - queue.first := by
  have := queue.mark_le_last
  have := queue.last_le_size
  simp only [current, List.length_drop, List.length_take, Array.length_toList]
  omega

theorem length_next (queue : GenerationQueue α) :
    queue.next.length = queue.last - queue.mark := by
  have := queue.last_le_size
  simp only [next, List.length_drop, List.length_take, Array.length_toList]
  omega

theorem isEmpty_iff {queue : GenerationQueue α} :
    queue.isEmpty = true ↔ queue.current = [] ∧ queue.next = [] := by
  have := queue.first_le_mark
  have := queue.mark_le_last
  rw [← List.length_eq_zero_iff, ← List.length_eq_zero_iff, length_current, length_next, isEmpty,
    beq_iff_eq]
  omega

/-! ## Adding -/

/-- An entry that is added leaves the current generation as it is, wherever the buffer
finds room for it. -/
@[simp] theorem current_addLast (queue : GenerationQueue α) (entry : α) :
    (queue.addLast entry).current = queue.current := by
  apply List.ext_getElem?
  intro index
  rw [getElem?_current, getElem?_current]
  obtain ⟨buffer, first, mark, last, generation, first_le_mark, mark_le_last, last_le_size⟩ := queue
  unfold addLast
  simp only
  split
  · grind
  · split <;> grind

/-- An entry that is added comes last in the next generation. -/
@[simp] theorem next_addLast (queue : GenerationQueue α) (entry : α) :
    (queue.addLast entry).next = queue.next ++ [entry] := by
  apply List.ext_getElem?
  intro index
  rw [List.getElem?_append, length_next, getElem?_next, getElem?_next]
  obtain ⟨buffer, first, mark, last, generation, first_le_mark, mark_le_last, last_le_size⟩ := queue
  unfold addLast
  simp only
  split
  · grind
  · split <;> grind

/-! ## Removing -/

/-- What is removed is the oldest entry of the current generation, as long as there is
one. -/
theorem removeFirst_of_current {queue : GenerationQueue α} {entry : α} {rest : List α}
    (shape : queue.current = entry :: rest) :
    queue.removeFirst.1 = some entry ∧ queue.removeFirst.2.current = rest ∧
      queue.removeFirst.2.next = queue.next := by
  have first := congrArg (·[0]?) shape
  have behind : ∀ index, queue.current[index + 1]? = rest[index]? := by simp [shape]
  simp only [getElem?_current, List.getElem?_cons_zero] at first behind
  obtain ⟨buffer, start, mark, last, generation, first_le_mark, mark_le_last, last_le_size⟩ := queue
  have live : start < mark := by grind
  unfold removeFirst
  simp only [dif_pos (Nat.lt_of_lt_of_le live mark_le_last)]
  refine ⟨by grind, ?_, ?_⟩
  · apply List.ext_getElem?
    intro index
    rw [getElem?_current, ← behind index]
    grind
  · apply List.ext_getElem?
    intro index
    rw [getElem?_next, getElem?_next]
    grind

/-- When the current generation is empty, what is removed is the oldest entry of the next
one, which stays the next one. -/
theorem removeFirst_of_next {queue : GenerationQueue α} {entry : α} {rest : List α}
    (nothing : queue.current = []) (shape : queue.next = entry :: rest) :
    queue.removeFirst.1 = some entry ∧ queue.removeFirst.2.current = [] ∧
      queue.removeFirst.2.next = rest := by
  have marked := congrArg List.length nothing
  have live := congrArg List.length shape
  have first := congrArg (·[0]?) shape
  have behind : ∀ index, queue.next[index + 1]? = rest[index]? := by simp [shape]
  simp only [getElem?_next, List.getElem?_cons_zero] at first behind
  rw [length_current, List.length_nil] at marked
  rw [length_next, List.length_cons] at live
  obtain ⟨buffer, start, mark, last, generation, first_le_mark, mark_le_last, last_le_size⟩ := queue
  obtain rfl : start = mark := by grind
  unfold removeFirst
  simp only [dif_pos (show start < last by grind)]
  refine ⟨by grind, ?_, ?_⟩
  · rw [← List.length_eq_zero_iff, length_current]
    grind
  · apply List.ext_getElem?
    intro index
    rw [getElem?_next, ← behind index]
    grind

/-- Nothing is removed from an empty queue, and it stays as it is. -/
theorem removeFirst_of_isEmpty {queue : GenerationQueue α} (nothing : queue.isEmpty = true) :
    queue.removeFirst = (none, queue) := by
  have same : queue.first = queue.last := by simpa [isEmpty] using nothing
  obtain ⟨buffer, start, mark, last, generation, first_le_mark, mark_le_last, last_le_size⟩ := queue
  unfold removeFirst
  simp only [dif_neg (show ¬ start < last by grind)]

/-! ## Changing generations -/

/-- Closing the current generation moves all entries into it. -/
@[simp] theorem current_markEnd (queue : GenerationQueue α) :
    queue.markEnd.current = queue.current ++ queue.next := by
  apply List.ext_getElem?
  intro index
  rw [List.getElem?_append, length_current, getElem?_current, getElem?_current, getElem?_next]
  obtain ⟨buffer, first, mark, last, generation, first_le_mark, mark_le_last, last_le_size⟩ := queue
  unfold markEnd
  grind

@[simp] theorem next_markEnd (queue : GenerationQueue α) : queue.markEnd.next = [] := by
  rw [← List.length_eq_zero_iff, length_next]
  exact Nat.sub_self _

@[simp] theorem current_clear (queue : GenerationQueue α) : queue.clear.current = [] := by
  simp [clear, current]

@[simp] theorem next_clear (queue : GenerationQueue α) : queue.clear.next = [] := by
  simp [clear, next]

end StrongLL.GenerationQueue
