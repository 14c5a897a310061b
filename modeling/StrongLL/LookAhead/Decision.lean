import StrongLL.LookAhead.Search

/-!
# Decisions

A decision picks one of several branches by looking ahead. It is made with the
least depth at which the branches have nothing in common; each level from one
depth to the next only extends the sequences that branches still share. When the
greatest depth is reached, or all that is shared reaches the end of input, the
branches cannot be told apart.
-/

namespace StrongLL

/-- For each depth from one on, the sequences of each branch. Below the first
level only extensions of shared sequences are kept. -/
structure Decision where
  levels : List (List SequenceSet)
  deriving DecidableEq

namespace Decision

/-- Terminals to look at before all branches can be told apart. -/
def depth (decision : Decision) : Nat := decision.levels.length

/-- The places of the sets with a member, counted from `index` on. -/
def matching (sequence : Terminals) : (index : Nat) → List SequenceSet → List Nat
  | _, [] => []
  | index, set :: rest =>
      let others := matching sequence (index + 1) rest
      if set.contains sequence then index :: others else others

/-- Pick a branch by one level after the other. `depth` terminals were looked at
before. -/
def selectFrom (input : Terminals) : (depth : Nat) → List (List SequenceSet) → Option Nat
  | _, [] => none
  | depth, sets :: deeper =>
      match matching (input.take (depth + 1)) 0 sets with
      | [] => none
      | [branch] => some branch
      | _ => selectFrom input (depth + 1) deeper

/-- The only branch that can have `input` ahead. -/
def select (decision : Decision) (input : Terminals) : Option Nat :=
  selectFrom input 0 decision.levels

/-- What two of several sets have in common. -/
def conflicts : List SequenceSet → SequenceSet
  | [] => .empty
  | set :: others =>
      others.foldl (fun shared other => (set.inter other).union shared) (conflicts others)

/-- Whether no greater depth can tell apart what branches share. -/
def isStuck (shared : SequenceSet) : Bool :=
  shared.members.all fun sequence => sequence.getLast? == some .eof

/-- Decide between branches. `levels` are those of lesser depths, `shared` is
what they leave, and `depths` is the number of depths left to try. If the branches
cannot be told apart the answer is what they share. -/
def resolve (search : Search) (branches : List Stack) :
    (depths : Nat) → (levels : List (List SequenceSet)) → (shared : Option SequenceSet) →
      Except SequenceSet Decision
  | 0, _, shared => .error (shared.getD .empty)
  | depths + 1, levels, shared =>
      let sets := branches.map (search.lookAhead (levels.length + 1) shared)
      let levels := levels ++ [sets]
      let shared := conflicts sets
      if shared.isEmpty then .ok ⟨levels⟩
      else if isStuck shared then .error shared
      else resolve search branches depths levels (some shared)

/-- Decide between branches with at most `maxDepth` terminals. -/
def between (search : Search) (maxDepth : Nat) (branches : List Stack) :
    Except SequenceSet Decision :=
  resolve search branches maxDepth [] none

/-- The branches of a choice between the alternatives of a production. -/
def choiceBranches (rule : Rule) : List Stack :=
  rule.alternatives.map fun alternative => ⟨[⟨alternative, 0⟩], rule.id⟩

/-- The branches of a repetition whose mandatory copies are there: one more
copy, or what follows. -/
def loopBranches (owner : RuleId) (element : Element) (rest : Alternative) : List Stack :=
  let again : Frame := ⟨element :: rest, element.occurs.nextCount element.occurs.min⟩
  [⟨[⟨[{ symbol := element.symbol }], 0⟩, again], owner⟩, ⟨[⟨rest, 0⟩], owner⟩]

end Decision

end StrongLL
