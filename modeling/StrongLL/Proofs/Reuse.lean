import StrongLL.Proofs.Automaton.LongestMatch
import StrongLL.Scanner

/-!
# Matchers and scanners that were used before

Two matchers that have read the same text have the same states queued, whatever their stamps
are, so they go on with the same answers and read equally far. A scanner that is reset keeps
its matcher, and gives what a new one gives.
-/

namespace StrongLL

/-- Among some states there is one least pattern at most. -/
theorem Automaton.Prefers.unique {automaton : Automaton} {among : Nat → Prop}
    {accepted other : Option Nat} (left : automaton.Prefers among accepted)
    (right : automaton.Prefers among other) : accepted = other := by
  match accepted, other with
  | none, none => rfl
  | none, some pattern =>
      obtain ⟨id, reached, accepts⟩ := right.1
      cases (left id reached).symm.trans accepts
  | some pattern, none =>
      obtain ⟨id, reached, accepts⟩ := left.1
      cases (right id reached).symm.trans accepts
  | some pattern, some other =>
      obtain ⟨id, reached, accepts⟩ := left.1
      obtain ⟨id', reached', accepts'⟩ := right.1
      have lower := left.2 id' other reached' accepts'
      have upper := right.2 id pattern reached accepts
      rw [Nat.le_antisymm lower upper]

namespace Matcher

variable {automaton : Automaton} {matcher matcher' : Matcher} {text : List Char}

theorem HasRead.isEmpty_iff (read : HasRead automaton text matcher) :
    matcher.queue.isEmpty = true ↔
      ∀ id, automaton.Path automaton.start text id → (automaton.state id).transitions = [] := by
  rw [GenerationQueue.isEmpty_iff, ← List.append_eq_nil_iff, List.eq_nil_iff_forall_not_mem]
  refine forall_congr' fun id => ?_
  rw [read.queued id, not_and, not_not]

/-- Matchers that have read the same go on alike. -/
theorem run_eq_of_hasRead (inRange : automaton.InRange) {fuel length : Nat} {cursor : Cursor}
    {best : Option Match} (read : HasRead automaton text matcher)
    (read' : HasRead automaton text matcher') :
    (run automaton fuel matcher cursor length best).2 =
      (run automaton fuel matcher' cursor length best).2 := by
  induction fuel generalizing matcher matcher' text cursor length best with
  | zero => rfl
  | succ fuel ih =>
      have stops : matcher.queue.isEmpty = matcher'.queue.isEmpty :=
        Bool.eq_iff_iff.mpr (read.isEmpty_iff.trans read'.isEmpty_iff.symm)
      unfold run
      rw [stops]
      split
      · rfl
      · generalize cursor.peek length = peeked
        obtain ⟨after, peek⟩ := peeked
        cases peek with
        | error failure => rfl
        | ok next =>
            cases next with
            | none => rfl
            | some char =>
                obtain ⟨more, prefers⟩ := hasRead_generation inRange read char
                obtain ⟨more', prefers'⟩ := hasRead_generation inRange read' char
                simp only [prefers.unique prefers']
                exact ih more more'

/-- What a matcher was used for before does not tell. -/
theorem longestMatch_eq_of_sound (inRange : automaton.InRange) (sound : matcher.Sound)
    (sound' : matcher'.Sound) (cursor : Cursor) :
    (matcher.longestMatch automaton cursor).2 = (matcher'.longestMatch automaton cursor).2 := by
  rw [longestMatch_eq, longestMatch_eq]
  exact run_eq_of_hasRead inRange (hasRead_enter inRange sound) (hasRead_enter inRange sound')

end Matcher

namespace Scanner

/-- Scanners at the same place of the same input, which differ in what their matchers were
used for. -/
structure Twins (left right : Scanner) : Prop where
  cursor : left.cursor = right.cursor
  position : left.position = right.position
  sound : left.matcher.Sound
  sound' : right.matcher.Sound

section

variable {vocabulary : Vocabulary} {scanner left right : Scanner}

/-- A matcher can be used again after any piece of the input. -/
theorem sound_piece (sound : scanner.matcher.Sound) :
    (scanner.piece vocabulary).1.matcher.Sound := by
  obtain ⟨cursor, matcher, position⟩ := scanner
  have reusable := Matcher.sound_longestMatch vocabulary.automaton cursor sound
  unfold piece
  dsimp only at reusable ⊢
  generalize matcher.longestMatch vocabulary.automaton cursor = found at reusable ⊢
  match found with
  | (_, _, .error _) => exact reusable
  | (_, _, .ok (some _)) => exact reusable
  | (_, cursor, .ok none) =>
      dsimp only
      generalize cursor.peek 0 = peeked
      match peeked with
      | (_, .error _) => exact reusable
      | (_, .ok none) => exact reusable
      | (_, .ok (some _)) => exact reusable

theorem sound_nextWithin {fuel : Nat} (sound : scanner.matcher.Sound) :
    (nextWithin vocabulary fuel scanner).1.matcher.Sound := by
  induction fuel generalizing scanner with
  | zero => exact sound
  | succ fuel ih =>
      have still := @sound_piece vocabulary scanner sound
      unfold nextWithin
      generalize scanner.piece vocabulary = taken at still ⊢
      obtain ⟨after, piece⟩ := taken
      cases piece with
      | token _ => exact still
      | ignored => exact ih still
      | faulty _ => exact still
      | finished => exact still

theorem sound_next (sound : scanner.matcher.Sound) :
    (scanner.next vocabulary).1.matcher.Sound := sound_nextWithin sound

/-- Twins take the same piece off the input. -/
theorem Twins.piece (twins : Twins left right) (inRange : vocabulary.automaton.InRange) :
    (left.piece vocabulary).2 = (right.piece vocabulary).2 ∧
      Twins (left.piece vocabulary).1 (right.piece vocabulary).1 := by
  have sound := @sound_piece vocabulary left twins.sound
  have sound' := @sound_piece vocabulary right twins.sound'
  obtain ⟨cursor, matcher, position⟩ := left
  obtain ⟨cursor', matcher', position'⟩ := right
  obtain ⟨rfl, rfl, reusable, reusable'⟩ := twins
  have same := Matcher.longestMatch_eq_of_sound inRange reusable reusable' cursor
  unfold Scanner.piece at sound sound' ⊢
  dsimp only at same sound sound' ⊢
  generalize matcher.longestMatch vocabulary.automaton cursor = found at same sound ⊢
  generalize matcher'.longestMatch vocabulary.automaton cursor = found' at same sound' ⊢
  obtain ⟨_, after, answer⟩ := found
  obtain ⟨_, _, _⟩ := found'
  obtain ⟨rfl, rfl⟩ := Prod.mk.inj same
  match answer with
  | .error _ => exact ⟨rfl, rfl, rfl, sound, sound'⟩
  | .ok (some _) => exact ⟨rfl, rfl, rfl, sound, sound'⟩
  | .ok none =>
      dsimp only at sound sound' ⊢
      generalize after.peek 0 = peeked at sound sound' ⊢
      match peeked with
      | (_, .error _) => exact ⟨rfl, rfl, rfl, sound, sound'⟩
      | (_, .ok none) => exact ⟨rfl, rfl, rfl, sound, sound'⟩
      | (_, .ok (some _)) => exact ⟨rfl, rfl, rfl, sound, sound'⟩

theorem Twins.nextWithin (twins : Twins left right) (inRange : vocabulary.automaton.InRange)
    {fuel : Nat} :
    Twins (nextWithin vocabulary fuel left).1 (nextWithin vocabulary fuel right).1 ∧
      (nextWithin vocabulary fuel left).2 = (nextWithin vocabulary fuel right).2 := by
  induction fuel generalizing left right with
  | zero => exact ⟨twins, rfl⟩
  | succ fuel ih =>
      obtain ⟨same, still⟩ := twins.piece inRange
      unfold Scanner.nextWithin
      generalize left.piece vocabulary = taken at same still ⊢
      generalize right.piece vocabulary = taken' at same still ⊢
      obtain ⟨after, piece⟩ := taken
      obtain ⟨after', piece'⟩ := taken'
      obtain rfl : piece = piece' := same
      cases piece with
      | token token => exact ⟨still, rfl⟩
      | ignored => exact ih still
      | faulty diagnostic => exact ⟨still, rfl⟩
      | finished => exact ⟨still, rfl⟩

/-- Twins give the same token, and stay twins. -/
theorem Twins.next (twins : Twins left right) (inRange : vocabulary.automaton.InRange) :
    Twins (left.next vocabulary).1 (right.next vocabulary).1 ∧
      (left.next vocabulary).2 = (right.next vocabulary).2 := by
  unfold Scanner.next
  rw [twins.cursor]
  exact twins.nextWithin inRange

/-- A scanner that is reset is the twin of a new one. -/
theorem twins_reset (sound : scanner.matcher.Sound) (source : Source) :
    Twins (scanner.reset source) (ofSource source) :=
  ⟨rfl, rfl, sound, Matcher.sound_fresh⟩

end

end Scanner

end StrongLL
