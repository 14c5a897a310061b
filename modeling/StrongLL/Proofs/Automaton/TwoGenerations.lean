import StrongLL.Proofs.Automaton.GenerationQueue
import StrongLL.Proofs.Calls

/-!
# A queue is two lists

Called in any order, a queue of two generations behaves as a list of the current
generation and a list of the next one. What is asked of the two lists mentions no
buffer, so it does not show where the queue keeps its entries or when it moves them.
-/

namespace StrongLL.GenerationQueue

variable {α : Type}

/-- What is asked of a queue. -/
inductive Call (α : Type) where
  | addLast (entry : α)
  | removeFirst
  | markEnd
  | clear

/-- What is seen of a queue behind a call, and the entry that the call removed. -/
structure Answer (α : Type) where
  removed : Option α
  size : Nat
  isEmpty : Bool
  isMarked : Bool
  generation : Nat

/-- What is seen of a queue behind a call that removed an entry or none. -/
def look (queue : GenerationQueue α) (removed : Option α) : Answer α where
  removed := removed
  size := queue.size
  isEmpty := queue.isEmpty
  isMarked := queue.isMarked
  generation := queue.generation.toNat

/-- A queue that is called. -/
def call (queue : GenerationQueue α) : Call α → GenerationQueue α × Answer α
  | .addLast entry => (queue.addLast entry, (queue.addLast entry).look none)
  | .removeFirst => (queue.removeFirst.2, queue.removeFirst.2.look queue.removeFirst.1)
  | .markEnd => (queue.markEnd, queue.markEnd.look none)
  | .clear => (queue.clear, queue.clear.look none)

/-- The entries of the current generation and those of the next one, and the number of
generations that were closed. -/
structure Lists (α : Type) where
  current : List α := []
  next : List α := []
  generation : Nat := 0

namespace Lists

/-- What is seen of two lists behind such a call. -/
def look (lists : Lists α) (removed : Option α) : Answer α where
  removed := removed
  size := lists.current.length + lists.next.length
  isEmpty := lists.current.isEmpty && lists.next.isEmpty
  isMarked := lists.current.isEmpty
  generation := lists.generation

/-- Take the head of the current generation, or of the next one when that is empty. -/
def removeFirst : Lists α → Lists α × Option α
  | ⟨entry :: current, next, generation⟩ => (⟨current, next, generation⟩, some entry)
  | ⟨[], entry :: next, generation⟩ => (⟨[], next, generation⟩, some entry)
  | ⟨[], [], generation⟩ => (⟨[], [], generation⟩, none)

/-- Two lists that are called. The number of generations is kept in 32 bits. -/
def call (lists : Lists α) : Call α → Lists α × Answer α
  | .addLast entry =>
      let longer : Lists α := { lists with next := lists.next ++ [entry] }
      (longer, longer.look none)
  | .removeFirst => (lists.removeFirst.1, lists.removeFirst.1.look lists.removeFirst.2)
  | .markEnd =>
      let generation := (lists.generation + 1) % UInt32.size
      let closed : Lists α := ⟨lists.current ++ lists.next, [], generation⟩
      (closed, closed.look none)
  | .clear =>
      let cleared : Lists α := ⟨[], [], lists.generation⟩
      (cleared, cleared.look none)

end Lists

/-! ## One call -/

/-- The two lists that a queue stands for. -/
def lists (queue : GenerationQueue α) : Lists α :=
  ⟨queue.current, queue.next, queue.generation.toNat⟩

theorem isMarked_iff {queue : GenerationQueue α} :
    queue.isMarked = true ↔ queue.current = [] := by
  have := queue.first_le_mark
  rw [← List.length_eq_zero_iff, length_current, isMarked, beq_iff_eq]
  omega

theorem look_lists (queue : GenerationQueue α) (removed : Option α) :
    queue.lists.look removed = queue.look removed := by
  have size : queue.current.length + queue.next.length = queue.size := by
    have := queue.first_le_mark
    have := queue.mark_le_last
    rw [length_current, length_next, GenerationQueue.size]
    omega
  have marked : queue.current.isEmpty = queue.isMarked := by
    rw [Bool.eq_iff_iff, List.isEmpty_iff, isMarked_iff]
  have empty : (queue.isMarked && queue.next.isEmpty) = queue.isEmpty := by
    rw [Bool.eq_iff_iff, Bool.and_eq_true, isMarked_iff, List.isEmpty_iff, isEmpty_iff]
  simp only [Lists.look, look, lists, size, marked, empty]

theorem generation_addLast (queue : GenerationQueue α) (entry : α) :
    (queue.addLast entry).generation = queue.generation := by
  unfold addLast
  simp only
  split
  · rfl
  · split <;> rfl

theorem generation_markEnd (queue : GenerationQueue α) :
    queue.markEnd.generation = queue.generation + 1 := rfl

theorem generation_clear (queue : GenerationQueue α) :
    queue.clear.generation = queue.generation := rfl

theorem generation_removeFirst (queue : GenerationQueue α) :
    queue.removeFirst.2.generation = queue.generation := by
  unfold removeFirst
  simp only
  split <;> rfl

/-- A removal takes from the two lists what it takes from the queue. -/
theorem removeFirst_lists (queue : GenerationQueue α) :
    queue.lists.removeFirst = (queue.removeFirst.2.lists, queue.removeFirst.1) := by
  have same := generation_removeFirst queue
  unfold lists
  cases current : queue.current with
  | cons entry rest =>
      obtain ⟨removed, left, next⟩ := removeFirst_of_current current
      simp [Lists.removeFirst, removed, left, next, same]
  | nil =>
      cases next : queue.next with
      | cons entry rest =>
          obtain ⟨removed, left, next⟩ := removeFirst_of_next current next
          simp [Lists.removeFirst, removed, left, next, same]
      | nil =>
          have unchanged := removeFirst_of_isEmpty (isEmpty_iff.mpr ⟨current, next⟩)
          simp [Lists.removeFirst, unchanged, current, next]

/-- A call does to the two lists what it does to the queue, and is answered alike. -/
theorem call_lists (queue : GenerationQueue α) (call : Call α) :
    queue.lists.call call = ((queue.call call).1.lists, (queue.call call).2) := by
  cases call with
  | addLast entry =>
      have added : (queue.addLast entry).lists =
          { queue.lists with next := queue.lists.next ++ [entry] } := by
        simp [lists, generation_addLast]
      simp only [Lists.call, GenerationQueue.call, ← added, look_lists]
  | removeFirst =>
      simp only [Lists.call, GenerationQueue.call, removeFirst_lists, look_lists]
  | markEnd =>
      have closed : queue.markEnd.lists =
          ⟨queue.lists.current ++ queue.lists.next, [],
            (queue.lists.generation + 1) % UInt32.size⟩ := by
        simp [lists, generation_markEnd, UInt32.toNat_add]
      simp only [Lists.call, GenerationQueue.call, ← closed, look_lists]
  | clear =>
      have cleared : queue.clear.lists = ⟨[], [], queue.lists.generation⟩ := by
        simp [lists, generation_clear]
      simp only [Lists.call, GenerationQueue.call, ← cleared, look_lists]

/-! ## Places in the buffer -/

/-- What is added stands in front of the end, in the buffer. -/
theorem getElem?_last_addLast (queue : GenerationQueue α) (entry : α) :
    (queue.addLast entry).buffer[(queue.addLast entry).last - 1]? = some entry := by
  obtain ⟨buffer, first, mark, last, generation, first_le_mark, mark_le_last, last_le_size⟩ := queue
  unfold addLast
  simp only
  split
  · grind
  · split <;> grind

/-- What is removed stands at the beginning, in the buffer. -/
theorem getElem?_first_of_live {queue : GenerationQueue α} (live : queue.first < queue.last) :
    ∃ entry, queue.buffer[queue.first]? = some entry ∧ queue.removeFirst.1 = some entry := by
  have inside : queue.first < queue.buffer.size := Nat.lt_of_lt_of_le live queue.last_le_size
  refine ⟨queue.buffer[queue.first], Array.getElem?_eq_getElem inside, ?_⟩
  unfold removeFirst
  simp only [dif_pos live]

/-! ## Any calls -/

/-- Whatever is asked of a new queue, it answers as two lists do, and stands for them. The
places that it keeps stay in order and within the buffer, and so do those that the next
removal reads and the next addition writes. -/
theorem behaves_as_lists (capacity : Nat) (calls : List (Call α)) :
    Calls.answers call (withCapacity capacity) calls = Calls.answers Lists.call {} calls ∧
    (let queue := Calls.final call (withCapacity capacity) calls
     let lists := Calls.final Lists.call {} calls
     queue.lists = lists ∧
     (queue.isMarked = true ↔ lists.current = []) ∧
     queue.size = lists.current.length + lists.next.length ∧
     (queue.first ≤ queue.mark ∧ queue.mark ≤ queue.last ∧ queue.last ≤ queue.buffer.size) ∧
     (queue.first < queue.last → ∃ entry, queue.buffer[queue.first]? = some entry ∧
       queue.removeFirst.1 = some entry) ∧
     ∀ entry, (queue.addLast entry).buffer[(queue.addLast entry).last - 1]? = some entry) := by
  have simulates : Calls.Simulates (fun (queue : GenerationQueue α) lists => queue.lists = lists)
      call Lists.call := by
    rintro queue _ call rfl
    rw [call_lists]
    exact ⟨rfl, rfl⟩
  have start : (withCapacity capacity : GenerationQueue α).lists = {} := by
    simp [lists, withCapacity, current, next]
  obtain ⟨same, alike⟩ := simulates.run start calls
  refine ⟨alike, same, ?_, ?_, ?_, getElem?_first_of_live, getElem?_last_addLast _⟩
  · rw [← same]
    exact isMarked_iff
  · have seen := look_lists (Calls.final call (withCapacity capacity) calls) none
    rw [same] at seen
    exact congrArg Answer.size seen.symm
  · exact ⟨GenerationQueue.first_le_mark _, GenerationQueue.mark_le_last _,
      GenerationQueue.last_le_size _⟩

end StrongLL.GenerationQueue
