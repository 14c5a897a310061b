/-!
# Queues of two generations

A simulation that moves all its states in lockstep keeps them in one queue:
those of the current generation in front of a mark, and behind it the next
generation, which grows while the current one is worked off. The queue lives in
one buffer whose live part is shifted to the front when the buffer is full and
at least half of it is used up.
-/

namespace StrongLL

/-- A first-in-first-out queue of two generations. `buffer` holds the current
generation from `first` to `mark` and the next one from `mark` to `last`. -/
structure GenerationQueue (α : Type) where
  buffer : Array α := #[]
  first : Nat := 0
  mark : Nat := 0
  last : Nat := 0
  generation : UInt32 := 0
  first_le_mark : first ≤ mark := by omega
  mark_le_last : mark ≤ last := by omega
  last_le_size : last ≤ buffer.size := by omega

namespace GenerationQueue

variable {α : Type}

/-- The queue without entries, in its first generation. -/
def empty : GenerationQueue α := { last_le_size := by simp }

/-- The empty queue with room for `capacity` entries. -/
def withCapacity (capacity : Nat) : GenerationQueue α :=
  { buffer := Array.mkEmpty capacity, last_le_size := by simp }

/-- Number of entries in both generations. -/
def size (queue : GenerationQueue α) : Nat := queue.last - queue.first

/-- Whether both generations are empty. -/
def isEmpty (queue : GenerationQueue α) : Bool := queue.first == queue.last

/-- Whether the current generation is empty. -/
def isMarked (queue : GenerationQueue α) : Bool := queue.first == queue.mark

/-- The entries of the current generation, in order. -/
def current (queue : GenerationQueue α) : List α :=
  (queue.buffer.toList.take queue.mark).drop queue.first

/-- The entries of the next generation, in order. -/
def next (queue : GenerationQueue α) : List α :=
  (queue.buffer.toList.take queue.last).drop queue.mark

/-- Append an entry to the next generation. -/
def addLast (queue : GenerationQueue α) (entry : α) : GenerationQueue α :=
  let { buffer, first, mark, last, generation, first_le_mark, mark_le_last, last_le_size } := queue
  if room : last < buffer.size then
    { buffer := buffer.set last entry
      first, mark, last := last + 1, generation
      last_le_size := by simp only [Array.size_set]; omega }
  else if used : 0 < first ∧ buffer.size / 2 ≤ first then
    { buffer := (buffer.extract first last ++ buffer.extract 0 first).set (last - first) entry
        (by simp only [Array.size_append, Array.size_extract]; omega)
      first := 0, mark := mark - first, last := last - first + 1, generation
      last_le_size := by
        simp only [Array.size_set, Array.size_append, Array.size_extract]; omega }
  else
    { buffer := buffer.push entry
      first, mark, last := last + 1, generation
      last_le_size := by simp only [Array.size_push]; omega }

/-- Take the oldest entry. When the current generation is empty it comes from
the next one. -/
def removeFirst (queue : GenerationQueue α) : Option α × GenerationQueue α :=
  let { buffer, first, mark, last, generation, first_le_mark, mark_le_last, last_le_size } := queue
  if live : first < last then
    have inside : first < buffer.size := by omega
    (some buffer[first],
      { buffer, first := first + 1, mark := max mark (first + 1), last, generation })
  else
    (none, { buffer, first, mark, last, generation })

/-- Close the current generation: all entries so far belong to it, and those
added from now on to the next one. -/
def markEnd (queue : GenerationQueue α) : GenerationQueue α :=
  let { buffer, first, mark, last, generation, first_le_mark, mark_le_last, last_le_size } := queue
  { buffer, first, mark := last, last, generation := generation + 1 }

/-- Drop all entries. The buffer is kept, and so is the generation. -/
def clear (queue : GenerationQueue α) : GenerationQueue α :=
  { buffer := queue.buffer, generation := queue.generation }

end GenerationQueue

end StrongLL
