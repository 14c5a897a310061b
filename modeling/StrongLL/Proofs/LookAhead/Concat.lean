import StrongLL.Proofs.LookAhead.SequenceSet

/-!
# Concatenation cut to a depth

Sequences that the end of input closes form a monoid: nothing can stand behind the end of
input, and behind any other end stands whatever comes next. Cutting to a depth respects it,
from whichever side. So sets of sequences, concatenated and cut, form an algebra with union:
concatenation is associative and distributes over unions, and the set of the empty sequence
does no more than cut.
-/

namespace StrongLL

namespace Terminals

/-! ## Sequences -/

/-- `earlier` and then `later`, unless the input ends with `earlier`. -/
def andThen (earlier later : Terminals) : Terminals :=
  if earlier.getLast? = some .eof then earlier else earlier ++ later

theorem prefix_andThen (earlier later : Terminals) : earlier <+: earlier.andThen later := by
  unfold andThen
  split
  · exact List.prefix_refl _
  · exact List.prefix_append _ _

@[simp] theorem nil_andThen (sequence : Terminals) : andThen [] sequence = sequence := rfl

@[simp] theorem andThen_nil (sequence : Terminals) : sequence.andThen [] = sequence := by
  simp [andThen]

/-- The input ends with two sequences if it ends with either. -/
theorem getLast?_andThen {earlier later : Terminals} (unended : earlier.getLast? ≠ some .eof) :
    (earlier.andThen later).getLast? = some .eof ↔ later.getLast? = some .eof := by
  rw [andThen, if_neg unended, List.getLast?_append]
  cases later.getLast? with
  | none => simpa using unended
  | some last => rfl

theorem andThen_assoc (first second third : Terminals) :
    (first.andThen second).andThen third = first.andThen (second.andThen third) := by
  by_cases ended : first.getLast? = some .eof
  · simp [andThen, ended]
  · have closes := @getLast?_andThen first second ended
    by_cases second.getLast? = some .eof <;>
      simp_all [andThen]

/-! ## Sequences that are cut -/

/-- Whatever is behind it, a sequence that is long enough begins alike. -/
theorem take_of_begins {depth : Nat} {earlier sequence : Terminals}
    (long : depth ≤ earlier.length) (begins : earlier <+: sequence) :
    sequence.take depth = earlier.take depth := by
  obtain ⟨more, rfl⟩ := begins
  rw [List.take_append_of_le_length long]

/-- A complete sequence is only cut, another one is extended up to the depth. -/
theorem take_andThen (depth : Nat) (earlier later : Terminals) :
    (earlier.andThen later).take depth =
      if earlier.isComplete depth then earlier.take depth
      else earlier ++ later.take (depth - earlier.length) := by
  by_cases ended : earlier.getLast? = some .eof
  · simp [andThen, isComplete, ended]
  · rcases Nat.lt_or_ge earlier.length depth with short | long
    · have incomplete : earlier.isComplete depth = false := by
        simp [isComplete, ended, short]
      rw [incomplete, andThen, if_neg ended, List.take_append,
        List.take_of_length_le (Nat.le_of_lt short)]
      rfl
    · have complete : earlier.isComplete depth = true := by simp [isComplete, long]
      rw [complete, if_pos rfl, take_of_begins long (prefix_andThen ..)]

/-- What is cut off an earlier sequence would be cut off behind it. -/
theorem take_andThen_left (depth : Nat) (earlier later : Terminals) :
    (andThen (earlier.take depth) later).take depth = (earlier.andThen later).take depth := by
  rcases Nat.lt_or_ge earlier.length depth with short | long
  · rw [List.take_of_length_le (Nat.le_of_lt short)]
  · have cut : (earlier.take depth).length = depth := List.length_take_of_le long
    rw [take_of_begins long (prefix_andThen ..),
      take_of_begins (Nat.le_of_eq cut.symm) (prefix_andThen ..), List.take_take, Nat.min_self]

/-- What is cut off a later sequence is cut off behind any earlier one. -/
theorem take_andThen_right (depth : Nat) (earlier later : Terminals) :
    (earlier.andThen (later.take depth)).take depth = (earlier.andThen later).take depth := by
  unfold andThen
  split
  · rfl
  · simp only [List.take_append, List.take_take]
    congr 2
    omega

end Terminals

namespace SequenceSet

/-! ## Sets -/

/-- A sequence goes on with each of those that may come next. -/
theorem mem_extend {depth : Nat} {tails : List Terminals} (some : tails ≠ [])
    {head sequence : Terminals} : sequence ∈ extend depth tails head ↔
      ∃ tail ∈ tails, sequence = (head.andThen tail).take depth := by
  simp only [Terminals.take_andThen, extend]
  split
  · obtain ⟨tail, member⟩ := List.exists_mem_of_ne_nil tails some
    rw [List.mem_singleton]
    exact ⟨fun same => ⟨tail, member, same⟩, fun ⟨_, _, same⟩ => same⟩
  · simp only [List.mem_map, eq_comm]

/-- The members of a concatenation are those of both sets, one behind the other, cut. -/
theorem mem_concat {left right : SequenceSet} {depth : Nat} {sequence : Terminals} :
    sequence ∈ left.concat right depth ↔
      ∃ head ∈ left, ∃ tail ∈ right, sequence = (head.andThen tail).take depth := by
  unfold concat
  split
  · rename_i empty
    simp [isEmpty_iff.mp empty]
  · rename_i notEmpty
    have some : right.members ≠ [] := by simpa [isEmpty] using notEmpty
    simp only [mem_ofList, List.mem_flatMap, mem_extend some, mem_members]

theorem concat_assoc (first second third : SequenceSet) (depth : Nat) :
    (first.concat second depth).concat third depth =
      first.concat (second.concat third depth) depth := by
  apply ext_mem
  intro sequence
  simp only [mem_concat]
  constructor
  · rintro ⟨_, ⟨head, inFirst, middle, inSecond, rfl⟩, tail, inThird, rfl⟩
    refine ⟨head, inFirst, _, ⟨middle, inSecond, tail, inThird, rfl⟩, ?_⟩
    rw [Terminals.take_andThen_left, Terminals.take_andThen_right, Terminals.andThen_assoc]
  · rintro ⟨head, inFirst, _, ⟨middle, inSecond, tail, inThird, rfl⟩, rfl⟩
    refine ⟨_, ⟨head, inFirst, middle, inSecond, rfl⟩, tail, inThird, ?_⟩
    rw [Terminals.take_andThen_left, Terminals.take_andThen_right, Terminals.andThen_assoc]

theorem mem_epsilon {sequence : Terminals} : sequence ∈ epsilon ↔ sequence = [] :=
  List.mem_singleton

theorem mem_epsilon_concat {set : SequenceSet} {depth : Nat} {sequence : Terminals} :
    sequence ∈ epsilon.concat set depth ↔ ∃ member ∈ set, sequence = member.take depth := by
  simp [mem_concat, mem_epsilon]

theorem mem_concat_epsilon {set : SequenceSet} {depth : Nat} {sequence : Terminals} :
    sequence ∈ set.concat epsilon depth ↔ ∃ member ∈ set, sequence = member.take depth := by
  simp [mem_concat, mem_epsilon]

theorem union_concat (first second third : SequenceSet) (depth : Nat) :
    (first.union second).concat third depth =
      (first.concat third depth).union (second.concat third depth) := by
  apply ext_mem
  intro sequence
  simp only [mem_concat, mem_union, or_and_right, exists_or]

theorem concat_union (first second third : SequenceSet) (depth : Nat) :
    first.concat (second.union third) depth =
      (first.concat second depth).union (first.concat third depth) := by
  apply ext_mem
  intro sequence
  simp only [mem_concat, mem_union, or_and_right, exists_or, and_or_left]

theorem length_le_of_mem_concat {left right : SequenceSet} {depth : Nat} {sequence : Terminals}
    (member : sequence ∈ left.concat right depth) : sequence.length ≤ depth := by
  obtain ⟨head, _, tail, _, rfl⟩ := mem_concat.mp member
  exact List.length_take_le _ _

/-- Concatenation cut to a depth is associative, and distributes over unions on either side.
The set of the empty sequence only cuts the members of another set, from the left as from the
right. No member is longer than the depth. All this holds of any sets: their members may be
longer than the depth, and the end of input may stand anywhere in them. -/
theorem concat_laws (depth : Nat) (first second third : SequenceSet) :
    (first.concat second depth).concat third depth =
      first.concat (second.concat third depth) depth ∧
    (∀ sequence, sequence ∈ epsilon.concat second depth ↔
      ∃ member ∈ second, sequence = member.take depth) ∧
    (∀ sequence, sequence ∈ first.concat epsilon depth ↔
      ∃ member ∈ first, sequence = member.take depth) ∧
    (first.union second).concat third depth =
      (first.concat third depth).union (second.concat third depth) ∧
    first.concat (second.union third) depth =
      (first.concat second depth).union (first.concat third depth) ∧
    ∀ sequence ∈ first.concat second depth, sequence.length ≤ depth :=
  ⟨concat_assoc .., fun _ => mem_epsilon_concat, fun _ => mem_concat_epsilon,
    union_concat .., concat_union .., fun _ => length_le_of_mem_concat⟩

/-- Two of three terminals are left; it is the end of input that is cut off. -/
theorem cutEnd_concat :
    [.token 0, .token 1] ∈ (only [.token 0]).concat (only [.token 1, .eof]) 2 ∧
      ([.token 0, .token 1] : Terminals).length ≤ 2 := by
  have member : [.token 0, .token 1] ∈ (only [.token 0]).concat (only [.token 1, .eof]) 2 :=
    contains_iff.mp rfl
  obtain ⟨_, _, _, _, _, short⟩ := concat_laws 2 (only [.token 0]) (only [.token 1, .eof]) epsilon
  exact ⟨member, short _ member⟩

end SequenceSet

end StrongLL
