import StrongLL.LookAhead.Terminal

/-!
# Sets of look-ahead sequences

A set holds its members once and in ascending order, so that two sets with the
same members are equal. Concatenation is cut to a given depth; `Terminals` that
end with the end of input are never extended.
-/

namespace StrongLL

/-- A finite set of look-ahead sequences. -/
structure SequenceSet where
  members : List Terminals
  ascending : members.Pairwise (fun left right => Terminals.precedes left right) := by
    exact .nil
  deriving DecidableEq

namespace SequenceSet

/-- The set without members. -/
def empty : SequenceSet := { members := [] }

/-- The set of the one sequence `sequence`. -/
def only (sequence : Terminals) : SequenceSet := ⟨[sequence], List.pairwise_singleton _ _⟩

/-- The set of the empty sequence alone. -/
def epsilon : SequenceSet := only []

/-- The set of one sequence of one terminal. -/
def single (terminal : Terminal) : SequenceSet := only [terminal]

instance : Inhabited SequenceSet := ⟨empty⟩

/-- Membership. -/
def contains (set : SequenceSet) (sequence : Terminals) : Bool :=
  set.members.contains sequence

instance : Membership Terminals SequenceSet where
  mem set sequence := sequence ∈ set.members

/-- Number of members. -/
def size (set : SequenceSet) : Nat := set.members.length

/-- Whether there are no members. -/
def isEmpty (set : SequenceSet) : Bool := set.members.isEmpty

/-- Whether the empty sequence is a member. -/
def isNullable (set : SequenceSet) : Bool := set.contains []

/-- Insert a sequence at its place in an ascending list. -/
def place (sequence : Terminals) : List Terminals → List Terminals
  | [] => [sequence]
  | first :: rest =>
      if sequence = first then first :: rest
      else if sequence.precedes first then sequence :: first :: rest
      else first :: place sequence rest

theorem mem_place {added sequence : Terminals} {members : List Terminals} :
    sequence ∈ place added members ↔ sequence = added ∨ sequence ∈ members := by
  induction members with
  | nil => simp [place]
  | cons first rest ih =>
      unfold place
      split
      · rename_i equal
        subst equal
        simp
      · split
        · simp
        · simp only [List.mem_cons, ih]
          constructor
          · rintro (h | h | h) <;> simp [h]
          · rintro (h | h | h) <;> simp [h]

theorem place_ascending {added : Terminals} {members : List Terminals}
    (ascending : members.Pairwise (fun left right => Terminals.precedes left right)) :
    (place added members).Pairwise (fun left right => Terminals.precedes left right) := by
  induction members with
  | nil => exact List.pairwise_singleton _ _
  | cons first rest ih =>
      obtain ⟨firstBefore, restAscending⟩ := List.pairwise_cons.mp ascending
      unfold place
      split
      · exact ascending
      · rename_i distinct
        split
        · rename_i before
          refine List.pairwise_cons.mpr ⟨fun sequence member => ?_, ascending⟩
          rcases List.mem_cons.mp member with rfl | member
          · exact before
          · exact Terminals.precedes_trans before (firstBefore sequence member)
        · rename_i notBefore
          refine List.pairwise_cons.mpr ⟨fun sequence member => ?_, ih restAscending⟩
          rcases mem_place.mp member with rfl | member
          · exact Terminals.precedes_total distinct (by simpa using notBefore)
          · exact firstBefore sequence member

/-- Add a sequence. -/
def insert (set : SequenceSet) (sequence : Terminals) : SequenceSet :=
  ⟨place sequence set.members, place_ascending set.ascending⟩

@[simp] theorem mem_insert {set : SequenceSet} {added sequence : Terminals} :
    sequence ∈ set.insert added ↔ sequence = added ∨ sequence ∈ set := mem_place

/-- The set of the sequences in a list. -/
def ofList (sequences : List Terminals) : SequenceSet :=
  sequences.foldr (fun sequence set => set.insert sequence) empty

/-- Members of either set. -/
def union (left right : SequenceSet) : SequenceSet :=
  left.members.foldr (fun sequence set => set.insert sequence) right

/-- Members of both sets. -/
def inter (left right : SequenceSet) : SequenceSet where
  members := left.members.filter right.contains
  ascending := left.ascending.filter _

/-- What arises from `head` when a member of `tails` follows it. -/
def extend (depth : Nat) (tails : List Terminals) (head : Terminals) : List Terminals :=
  if head.isComplete depth then [head.take depth]
  else tails.map fun tail => head ++ tail.take (depth - head.length)

/-- Members of `left` followed by members of `right`, cut to `depth`. A sequence
that is complete already is not extended. -/
def concat (left right : SequenceSet) (depth : Nat) : SequenceSet :=
  if right.isEmpty then empty
  else ofList (left.members.flatMap (extend depth right.members))

/-- Length of the longest beginning of `input` with which some member begins. -/
def longestPrefix (set : SequenceSet) (input : Terminals) : Nat :=
  set.members.foldl (fun longest member => max longest (member.commonLength input)) 0

/-- The terminal that follows `lead` in `sequence`. -/
def follower? (lead sequence : Terminals) : Option Terminal :=
  match lead, sequence with
  | [], terminal :: _ => some terminal
  | a :: lead, b :: sequence => if a = b then follower? lead sequence else none
  | _, [] => none

/-- The terminals that follow `lead` in members, in ascending order. -/
def nextAfter (set : SequenceSet) (lead : Terminals) : List Terminal :=
  let followers := ofList ((set.members.filterMap (follower? lead)).map ([·]))
  followers.members.flatten

end SequenceSet

end StrongLL
