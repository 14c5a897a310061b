import StrongLL.Automaton.Basic
import StrongLL.Automaton.GenerationQueue
import StrongLL.Text.Cursor

/-!
# Longest match

All states that the automaton can be in move in lockstep, one character per
generation. The last generation that holds an accepting state decides, and in
it the pattern with the least number. A matcher is used again and again: a
stamp on each state tells which generation visited it last, so nothing has to
be wiped between generations.
-/

namespace StrongLL

/-- The longest beginning of the input that a pattern accepts. -/
structure Match where
  length : Nat
  pattern : Nat
  deriving DecidableEq, Repr

/-- The working state of a simulation. -/
structure Matcher where
  queue : GenerationQueue Nat := .empty
  /-- The stamp of the generation that visited each state last. -/
  seen : Array UInt32 := #[]
  stamp : UInt32 := 0

namespace Matcher

/-- A matcher that has not been used yet. -/
def fresh : Matcher := {}

/-- Begin a new generation. When the stamps are used up, all states are wiped. -/
def nextStamp (matcher : Matcher) : Matcher :=
  let stamp := matcher.stamp + 1
  if stamp = 0 then
    { matcher with seen := matcher.seen.map fun _ => 0, stamp := 1 }
  else
    { matcher with stamp }

/-- Make room for the states of an automaton. -/
def reserve (matcher : Matcher) (size : Nat) : Matcher :=
  { matcher with
    seen := matcher.seen ++ Array.replicate (size - matcher.seen.size) 0 }

/-- Whether this generation has visited a state. There is nothing to visit out
of range. -/
def hasSeen (matcher : Matcher) (id : Nat) : Bool :=
  match matcher.seen[id]? with
  | some stamp => stamp == matcher.stamp
  | none => true

/-- Mark a state as visited, and queue it if it moves on characters. -/
def visit (matcher : Matcher) (id : Nat) (state : State) : Matcher :=
  let { queue, seen, stamp } := matcher
  { queue := if state.transitions.isEmpty then queue else queue.addLast id
    seen := seen.set! id stamp
    stamp }

/-- The lesser of two pattern numbers, as far as they are there. -/
def least : Option Nat → Option Nat → Option Nat
  | some left, some right => some (min left right)
  | some left, none => some left
  | none, right => right

/-- Drop the states that this generation has visited. -/
def skipSeen (matcher : Matcher) : List Nat → List Nat
  | [] => []
  | id :: rest => if matcher.hasSeen id then skipSeen matcher rest else id :: rest

/-- Visit all states that silent moves lead to from the pending ones. Each step
visits a state that was not seen before, so there are at most as many steps as
states. -/
def close (automaton : Automaton) :
    (fuel : Nat) → Matcher → (pending : List Nat) → (accepted : Option Nat) →
      Matcher × Option Nat
  | 0, matcher, _, accepted => (matcher, accepted)
  | fuel + 1, matcher, pending, accepted =>
      match matcher.skipSeen pending with
      | [] => (matcher, accepted)
      | id :: rest =>
          let state := automaton.state id
          close automaton fuel (matcher.visit id state) (state.epsilons ++ rest)
            (least accepted state.accept)

/-- Visit the silent closure of a state. -/
def enter (automaton : Automaton) (matcher : Matcher) (id : Nat) (accepted : Option Nat) :
    Matcher × Option Nat :=
  close automaton (automaton.size + 1) matcher [id] accepted

/-- Take the moves on `char` among transitions. -/
def follow (automaton : Automaton) (char : Char) :
    List Transition → Matcher → (accepted : Option Nat) → Matcher × Option Nat
  | [], matcher, accepted => (matcher, accepted)
  | transition :: rest, matcher, accepted =>
      if transition.charClass.contains char then
        let (matcher, accepted) := enter automaton matcher transition.target accepted
        follow automaton char rest matcher accepted
      else
        follow automaton char rest matcher accepted

/-- Move the next `count` states of the current generation on `char`. -/
def move (automaton : Automaton) (char : Char) :
    (count : Nat) → Matcher → (accepted : Option Nat) → Matcher × Option Nat
  | 0, matcher, accepted => (matcher, accepted)
  | count + 1, matcher, accepted =>
      match matcher.queue.removeFirst with
      | (none, _) => (matcher, accepted)
      | (some id, queue) =>
          let (matcher, accepted) :=
            follow automaton char (automaton.state id).transitions
              { matcher with queue } accepted
          move automaton char count matcher accepted

/-- Move the whole generation on `char`. The answer is the pattern that the
next generation accepts, if any. -/
def generation (automaton : Automaton) (matcher : Matcher) (char : Char) :
    Matcher × Option Nat :=
  let matcher := { matcher with queue := matcher.queue.markEnd }.nextStamp
  move automaton char (matcher.queue.mark - matcher.queue.first) matcher none

/-- Move on character after character, beginning `length` places ahead, until no
state is left or the input ends. -/
def run (automaton : Automaton) :
    (fuel : Nat) → Matcher → Cursor → (length : Nat) → (best : Option Match) →
      Matcher × Cursor × Except ReadFailure (Option Match)
  | 0, matcher, cursor, _, best => (matcher, cursor, .ok best)
  | fuel + 1, matcher, cursor, length, best =>
      if matcher.queue.isEmpty then (matcher, cursor, .ok best)
      else
        match cursor.peek length with
        | (cursor, .error failure) => (matcher, cursor, .error failure)
        | (cursor, .ok none) => (matcher, cursor, .ok best)
        | (cursor, .ok (some char)) =>
            let (matcher, accepted) := matcher.generation automaton char
            let best := match accepted with
              | some pattern => some ⟨length + 1, pattern⟩
              | none => best
            run automaton fuel matcher cursor (length + 1) best

/-- The longest match that begins at the cursor. The cursor stays where it is;
at most it reads more lines. The empty match does not count. -/
def longestMatch (automaton : Automaton) (matcher : Matcher) (cursor : Cursor) :
    Matcher × Cursor × Except ReadFailure (Option Match) :=
  let matcher := (matcher.reserve automaton.size).nextStamp
  let matcher := { matcher with queue := matcher.queue.clear }
  let (matcher, _) := enter automaton matcher automaton.start none
  run automaton (cursor.remaining + 1) matcher cursor 0 none

/-- The longest match at the beginning of a text. -/
def matchText (automaton : Automaton) (matcher : Matcher) (text : List Char) :
    Matcher × Option Match :=
  match longestMatch automaton matcher (.ofSource (.ofText text)) with
  | (matcher, _, .ok found) => (matcher, found)
  | (matcher, _, .error _) => (matcher, none)

end Matcher

end StrongLL
