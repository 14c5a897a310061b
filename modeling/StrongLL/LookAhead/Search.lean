import StrongLL.LookAhead.SequenceSet
import StrongLL.Rules.Table

/-!
# Look-ahead search

What can be ahead of a decision is found by deriving the rest of the input from
there. The rest is a stack of elements still to come; below them lies whatever
may follow the production of the decision anywhere in the grammar, as strong LL
parsing requires. Moves without a terminal lead from stack to stack; all stacks
that they lead to are gathered before the next terminal is taken.
-/

namespace StrongLL

/-- What is left of an alternative: its elements from some place on, of which
`count` copies of the first are there already. -/
structure Frame where
  rest : Alternative
  count : Nat := 0
  deriving DecidableEq, Repr

/-- What is left of the input: the frames, innermost first, and then what may
follow the production `owner`. -/
structure Stack where
  frames : List Frame
  owner : RuleId
  deriving DecidableEq, Repr

/-- The number of copies after one more. From the lower bound of an unbounded
element on all numbers act alike, and count as one. -/
def Occurs.nextCount (occurs : Occurs) (count : Nat) : Nat :=
  match occurs.max with
  | some _ => count + 1
  | none => Nat.min (count + 1) occurs.min

/-- How a stack goes on: silently, by taking a token, or by the end of input. -/
inductive Move where
  | silent (target : Stack)
  | shift (token : TokenId) (target : Stack)
  | finish
  deriving DecidableEq, Repr

/-- A grammar prepared for the search. Behind a root the input may end;
`returns` holds for each production the places behind its uses. -/
structure Search where
  table : RuleTable
  roots : List RuleId
  returns : List (RuleId × List Stack)

namespace Search

/-! ## Preparation -/

/-- The places in an alternative of `owner` behind an occurrence of `target`. -/
def returnsIn (target owner : RuleId) : Alternative → List Stack
  | [] => []
  | element :: rest =>
      let behind := returnsIn target owner rest
      if element.symbol = .rule target then
        ⟨[⟨element :: rest, element.occurs.nextCount 0⟩], owner⟩ :: behind
      else behind

/-- The places in a grammar behind the uses of a production. -/
def returnsOf (table : RuleTable) (target : RuleId) : List Stack :=
  table.flatMap fun rule => rule.alternatives.flatMap (returnsIn target rule.id)

/-- The productions that a production refers to. -/
def references (table : RuleTable) (id : RuleId) : List RuleId :=
  (table.alternatives id).flatten.filterMap fun element =>
    match element.symbol with
    | .token _ => none
    | .rule id => some id

/-- The productions that can be reached from the pending ones. Each step reaches
one that was not reached before. -/
def reach (table : RuleTable) : (fuel : Nat) → (reached pending : List RuleId) → List RuleId
  | 0, reached, _ => reached
  | fuel + 1, reached, pending =>
      match pending.dropWhile reached.contains with
      | [] => reached
      | id :: rest => reach table fuel (id :: reached) (references table id ++ rest)

/-- The productions whose end may be the end of the input: the start production,
and those that cannot be reached from it. -/
def rootsOf (table : RuleTable) (start : RuleId) : List RuleId :=
  let reached := reach table (table.length + 1) [] [start]
  (table.map (·.id)).filter fun id => id == start || !reached.contains id

/-- Prepare a grammar. -/
def prepare (table : RuleTable) (start : RuleId) : Search where
  table
  roots := rootsOf table start
  returns := table.map fun rule => (rule.id, returnsOf table rule.id)

/-- The places behind the uses of a production. -/
def behind (search : Search) (id : RuleId) : List Stack :=
  match search.returns.find? (·.1 == id) with
  | some (_, found) => found
  | none => []

/-! ## Moves -/

/-- Begin with a symbol, and go on with a stack. -/
def begin (search : Search) (symbol : Symbol) (stack : Stack) : List Move :=
  match symbol with
  | .token id => [.shift id stack]
  | .rule id =>
      (search.table.alternatives id).map fun alternative =>
        .silent { stack with frames := ⟨alternative, 0⟩ :: stack.frames }

/-- All moves of a stack. -/
def moves (search : Search) (stack : Stack) : List Move :=
  match stack.frames with
  | [] =>
      (if search.roots.contains stack.owner then [.finish] else []) ++
        (search.behind stack.owner).map .silent
  | ⟨[], _⟩ :: below => [.silent { stack with frames := below }]
  | ⟨element :: rest, count⟩ :: below =>
      (if element.occurs.min ≤ count then
        [.silent { stack with frames := ⟨rest, 0⟩ :: below }] else []) ++
      (if element.occurs.isFull count then []
        else
          search.begin element.symbol
            { stack with
              frames := ⟨element :: rest, element.occurs.nextCount count⟩ :: below })

/-- A search for all stacks that silent moves lead to. -/
structure Walk where
  pending : List Stack
  seen : List Stack := []
  shifts : List (TokenId × Stack) := []
  finishes : Bool := false

/-- Note where a move leads. -/
def Walk.note (walk : Walk) : Move → Walk
  | .silent target => { walk with pending := target :: walk.pending }
  | .shift token target => { walk with shifts := (token, target) :: walk.shifts }
  | .finish => { walk with finishes := true }

/-- Follow silent moves until no stack is pending that was not seen before. -/
def follow (search : Search) : (fuel : Nat) → Walk → Walk
  | 0, walk => walk
  | fuel + 1, walk =>
      match walk.pending.dropWhile walk.seen.contains with
      | [] => { walk with pending := [] }
      | stack :: rest =>
          search.follow fuel
            ((search.moves stack).foldl Walk.note
              { walk with pending := rest, seen := stack :: walk.seen })

/-- Number of frames that alternatives can leave, if no element is repeated more
than `copies` times before counts collapse. -/
def frameCount (copies : Nat) (alternatives : List Alternative) : Nat :=
  (alternatives.map fun alternative => (alternative.length + 1) * (copies + 2)).foldr (· + ·) 0

/-- The greatest bound in alternatives. -/
def greatestBound (alternatives : List Alternative) : Nat :=
  alternatives.flatten.foldl
    (fun bound element => max bound (element.occurs.max.getD element.occurs.min)) 0

/-- A bound on the stacks that silent moves can lead to. Without left recursion
no production is begun twice above the same frame, so a stack gains at most as
many frames as there are productions. -/
def stackBound (search : Search) (sources : List Stack) : Nat :=
  let alternatives :=
    search.table.flatMap (·.alternatives) ++
      sources.flatMap fun stack => stack.frames.map (·.rest)
  let frames := frameCount (greatestBound alternatives) alternatives
  let height := (sources.map (·.frames.length)).foldl max 1 + search.table.length + 1
  (search.table.length + sources.length + 1) * (frames + 2).pow (height + 1)

/-- All that silent moves from `sources` lead to. -/
def explore (search : Search) (sources : List Stack) : Walk :=
  search.follow (search.stackBound sources) { pending := sources }

/-! ## Sequences -/

/-- What follows in a sequence that begins with `next`. -/
def behindFirst (next : Terminal) : Terminals → Option Terminals
  | [] => none
  | terminal :: rest => if terminal = next then some rest else none

/-- Restrict the sequences to look for by the next terminal. The last terminal
of all is not restricted. -/
def narrow (depth : Nat) (shared : Option (List Terminals)) (next : Terminal) :
    Option (Option (List Terminals)) :=
  match depth, shared with
  | 0, _ => some none
  | _, none => some none
  | _, some sequences =>
      match sequences.filterMap (behindFirst next) with
      | [] => none
      | rests => some (some rests)

/-- The tokens that stacks can take next, each once and in ascending order. -/
def tokensOf (shifts : List (TokenId × Stack)) : List Terminal :=
  (SequenceSet.ofList (shifts.map fun shift => [.token shift.1])).members.flatten

/-- The stacks that taking a token leads to. -/
def stacksAfter (next : Terminal) (shifts : List (TokenId × Stack)) : List Stack :=
  shifts.filterMap fun shift => if Terminal.token shift.1 = next then some shift.2 else none

/-- The sequences of `depth` terminals, or fewer at the end of input, that can
be ahead of `sources`. If `shared` is given, all but the last terminal of a
sequence must agree with one of these. -/
def sequences (search : Search) :
    (depth : Nat) → (shared : Option (List Terminals)) → List Stack → List Terminals
  | 0, _, _ => [[]]
  | depth + 1, shared, sources =>
      let walk := search.explore sources
      let byToken := (tokensOf walk.shifts).flatMap fun next =>
        match narrow depth shared next with
        | none => []
        | some shared =>
            (search.sequences depth shared (stacksAfter next walk.shifts)).map (next :: ·)
      let atEnd :=
        if walk.finishes && (narrow depth shared .eof).isSome then [[Terminal.eof]] else []
      byToken ++ atEnd

/-- The set of sequences that can be ahead of a branch. -/
def lookAhead (search : Search) (depth : Nat) (shared : Option SequenceSet)
    (branch : Stack) : SequenceSet :=
  .ofList (search.sequences depth (shared.map (·.members)) [branch])

end Search

end StrongLL
