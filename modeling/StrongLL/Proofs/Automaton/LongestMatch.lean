import Mathlib.Order.Bounds.Basic
import StrongLL.Proofs.Automaton.Generation
import StrongLL.Proofs.Text.Cursor

/-!
# The longest match

The simulation finds the longest beginning of the text that some pattern accepts, and of
these patterns the least. That holds for every automaton whose moves stay in range and for
every matcher, whatever it was used for before: for other automata, on inputs that broke
off, and beyond the last stamp.
-/

namespace StrongLL

namespace Automaton

/-- The first `length` characters of a text, which are not none, are accepted for some
pattern. -/
def Begins (automaton : Automaton) (text : List Char) (length : Nat) : Prop :=
  0 < length ∧ length ≤ text.length ∧ ∃ pattern, automaton.Accepts (text.take length) pattern

/-- What is to be found at the beginning of a text. -/
def Longest (automaton : Automaton) (text : List Char) : Option Match → Prop
  | none => ∀ length, ¬ automaton.Begins text length
  | some found => IsGreatest {length | automaton.Begins text length} found.length ∧
      IsLeast {pattern | automaton.Accepts (text.take found.length) pattern} found.pattern

variable {automaton : Automaton} {text : List Char} {best : Option Match}

theorem begins_append {length : Nat} (inside : length ≤ text.length) (others : List Char) :
    automaton.Begins (text ++ others) length ↔ automaton.Begins text length := by
  rw [Begins, Begins, List.take_append_of_le_length inside, List.length_append]
  simp only [inside, Nat.le_add_right_of_le inside]

theorem Longest.length_le {found : Match} (longest : automaton.Longest text (some found)) :
    0 < found.length ∧ found.length ≤ text.length :=
  ⟨longest.1.1.1, longest.1.1.2.1⟩

theorem Longest.length_le_of_take {found : Match} {length : Nat}
    (longest : automaton.Longest (text.take length) (some found)) : found.length ≤ length :=
  Nat.le_trans longest.length_le.2 (List.length_take_le length text)

theorem longest_nil (automaton : Automaton) : automaton.Longest [] none :=
  fun _ begins => absurd begins.2.1 (Nat.not_le.mpr begins.1)

/-- What is found does not change if nothing longer is accepted. -/
theorem Longest.append (longest : automaton.Longest text best) {others : List Char}
    (rejected : ∀ length, text.length < length → ¬ automaton.Begins (text ++ others) length) :
    automaton.Longest (text ++ others) best := by
  have inside : ∀ length, automaton.Begins (text ++ others) length →
      automaton.Begins text length := by
    intro length begins
    have short := Nat.le_of_not_lt fun long => rejected length long begins
    exact (begins_append short others).mp begins
  cases best with
  | none => exact fun length begins => longest length (inside length begins)
  | some found =>
      obtain ⟨⟨begins, greatest⟩, least⟩ := longest
      have short : found.length ≤ text.length := begins.2.1
      refine ⟨⟨(begins_append short others).mpr begins, fun length longer => ?_⟩, ?_⟩
      · exact greatest (inside length longer)
      · rwa [List.take_append_of_le_length short]

/-- A text that is accepted as a whole is the longest match. -/
theorem longest_whole (positive : 0 < text.length) {pattern : Nat}
    (least : IsLeast {pattern | automaton.Accepts text pattern} pattern) :
    automaton.Longest text (some ⟨text.length, pattern⟩) := by
  refine ⟨⟨⟨positive, Nat.le_refl _, pattern, ?_⟩, fun length begins => begins.2.1⟩, ?_⟩
  · rw [List.take_length]
    exact least.1
  · rwa [List.take_length]

/-- Each text has one longest match at most. -/
theorem Longest.unique {other : Option Match} (left : automaton.Longest text best)
    (right : automaton.Longest text other) : best = other := by
  match best, other with
  | none, none => rfl
  | none, some found => exact (left _ right.1.1).elim
  | some found, none => exact (right _ left.1.1).elim
  | some ⟨length, pattern⟩, some ⟨otherLength, otherPattern⟩ =>
      obtain rfl : length = otherLength := left.1.unique right.1
      obtain rfl : pattern = otherPattern := left.2.unique right.2
      rfl

/-- The pattern that wins among the states that a text leads to is the least that accepts
the text. -/
theorem isLeast_accepts {pattern : Nat}
    (prefers : automaton.Prefers (automaton.Path automaton.start text) (some pattern)) :
    IsLeast {pattern | automaton.Accepts text pattern} pattern :=
  ⟨prefers.1, fun other ⟨id, path, accept⟩ => prefers.2 id other path accept⟩

/-- A text that is accepted with its last character is the longest match. -/
theorem longest_snoc {char : Char} {pattern : Nat} (prefers :
    automaton.Prefers (automaton.Path automaton.start (text ++ [char])) (some pattern)) :
    automaton.Longest (text ++ [char]) (some ⟨text.length + 1, pattern⟩) := by
  have whole := longest_whole (by simp) (isLeast_accepts prefers)
  rwa [List.length_append, List.length_singleton] at whole

/-- One more character changes nothing if the text is not accepted with it. -/
theorem Longest.snoc (longest : automaton.Longest text best) {char : Char} (prefers :
    automaton.Prefers (automaton.Path automaton.start (text ++ [char])) none) :
    automaton.Longest (text ++ [char]) best := by
  refine longest.append fun length longer begins => ?_
  have all : length = (text ++ [char]).length := by
    have bound := begins.2.1
    rw [List.length_append, List.length_singleton] at bound ⊢
    omega
  obtain ⟨pattern, id, path, accept⟩ := begins.2.2
  rw [all, List.take_length] at path
  rw [prefers id path] at accept
  cases accept

/-- Beyond a place behind which no state reads a character nothing more is found. -/
theorem Longest.dead (longest : automaton.Longest text best)
    (dead : ∀ id, automaton.Path automaton.start text id → (automaton.state id).transitions = [])
    (others : List Char) : automaton.Longest (text ++ others) best := by
  refine longest.append fun length longer begins => ?_
  obtain ⟨_, bound, pattern, accepts⟩ := begins
  obtain ⟨char, rest, shape⟩ : ∃ char rest, (text ++ others).take length = text ++ char :: rest := by
    rw [List.take_append, List.take_of_length_le (Nat.le_of_lt longer)]
    rw [List.length_append] at bound
    cases cut : others.take (length - text.length) with
    | nil =>
        have := congrArg List.length cut
        rw [List.length_take, List.length_nil] at this
        omega
    | cons char rest => exact ⟨char, rest, rfl⟩
  rw [shape] at accepts
  exact not_accepts_beyond dead char rest pattern accepts

end Automaton

namespace Matcher

variable {automaton : Automaton} {matcher : Matcher} {cursor : Cursor}

/-- What the answer of a simulation says about the text, and what it leaves of the failure
of the source. -/
def Answers (automaton : Automaton) (before after : Cursor) :
    Except ReadFailure (Option Match) → Prop
  | .ok best => automaton.Longest before.text best ∧
      (∀ found ∈ best, found.length ≤ after.ahead.length) ∧
        after.source.failure = before.source.failure
  | .error failure => before.source.failure = some failure ∧ after.source.failure = none

/-- What a simulation finds, and what it leaves. -/
structure Finds (automaton : Automaton) (before after : Cursor)
    (answer : Except ReadFailure (Option Match)) : Prop where
  inside : after.Inside
  text : after.text = before.text
  answers : Answers automaton before after answer

theorem Finds.behind {first before after : Cursor} {answer : Except ReadFailure (Option Match)}
    (finds : Finds automaton before after answer) (text : before.text = first.text)
    (failure : before.source.failure = first.source.failure) :
    Finds automaton first after answer := by
  refine ⟨finds.inside, finds.text.trans text, ?_⟩
  have answers := finds.answers
  match answer with
  | .ok best => exact ⟨text ▸ answers.1, answers.2.1, answers.2.2.trans failure⟩
  | .error reason => exact ⟨failure ▸ answers.1, answers.2⟩

/-- What is found in the text that was read so far is found in all of it, if no state reads
on. -/
theorem finds_dead {length : Nat} {best : Option Match} (inside : cursor.Inside)
    (buffered : length ≤ cursor.ahead.length)
    (longest : automaton.Longest (cursor.text.take length) best)
    (read : HasRead automaton (cursor.text.take length) matcher)
    (empty : matcher.queue.isEmpty = true) : Finds automaton cursor cursor (.ok best) := by
  obtain ⟨current, next⟩ := GenerationQueue.isEmpty_iff.mp empty
  refine ⟨inside, rfl, ?_, fun found member => ?_, rfl⟩
  · rw [← List.take_append_drop length cursor.text]
    refine longest.dead (fun id path => ?_) _
    by_contra reads
    have queued := (read.queued id).mpr ⟨path, reads⟩
    rw [current, next] at queued
    cases queued
  · obtain rfl : best = some found := member
    exact Nat.le_trans longest.length_le_of_take buffered

/-- The simulation reads character after character. It stops where no state reads on or the
text ends. -/
theorem finds_run (inRange : automaton.InRange) {fuel length : Nat} {best : Option Match}
    (inside : cursor.Inside) (buffered : length ≤ cursor.ahead.length)
    (longest : automaton.Longest (cursor.text.take length) best)
    (read : HasRead automaton (cursor.text.take length) matcher)
    (enough : cursor.text.length < fuel + length) :
    Finds automaton cursor (run automaton fuel matcher cursor length best).2.1
      (run automaton fuel matcher cursor length best).2.2 := by
  induction fuel generalizing matcher cursor length best with
  | zero =>
      have whole : cursor.ahead.length ≤ cursor.text.length := by simp [Cursor.text]
      omega
  | succ fuel ih =>
      have sees := Cursor.sees_peek inside length
      unfold run
      split
      · rename_i empty
        exact finds_dead inside buffered longest read empty
      · split
        · rename_i after failure peeked
          rw [peeked] at sees
          exact ⟨sees.inside, sees.text, sees.tells.2⟩
        · rename_i after peeked
          rw [peeked] at sees
          obtain ⟨ended, failure, stillNone⟩ := sees.tells
          have all : cursor.text.take length = cursor.text :=
            List.take_of_length_le (List.getElem?_eq_none_iff.mp ended)
          refine ⟨sees.inside, sees.text, all ▸ longest, fun found member => ?_,
            stillNone.trans failure.symm⟩
          obtain rfl : best = some found := member
          exact Nat.le_trans longest.length_le_of_take
            (Nat.le_trans buffered sees.ahead.length_le)
        · rename_i after char peeked
          rw [peeked] at sees
          obtain ⟨place, seen, failure⟩ := sees.tells
          have longer := sees.take_succ
          have spelled : (cursor.text.take length).length = length :=
            List.length_take_of_le (Nat.le_of_lt (List.getElem?_eq_some_iff.mp place).1)
          obtain ⟨hasRead, prefers⟩ := hasRead_generation inRange read char
          rw [longer] at hasRead
          have goesOn : ∀ better, automaton.Longest (after.text.take (length + 1)) better →
              Finds automaton cursor
                (run automaton fuel (matcher.generation automaton char).1 after (length + 1)
                  better).2.1
                (run automaton fuel (matcher.generation automaton char).1 after (length + 1)
                  better).2.2 := by
            intro better improved
            exact (ih sees.inside seen improved hasRead (by rw [sees.text]; omega)).behind
              sees.text failure
          simp only
          generalize (matcher.generation automaton char).2 = accepted at prefers ⊢
          cases accepted with
          | some pattern =>
              have better := Automaton.longest_snoc prefers
              rw [spelled, longer] at better
              exact goesOn _ better
          | none =>
              have better := longest.snoc prefers
              rw [longer] at better
              exact goesOn best better

/-- A simulation answers what the longest match at the beginning of the text is, unless the
source fails. -/
theorem finds_longestMatch (inRange : automaton.InRange) (sound : matcher.Sound)
    (inside : cursor.Inside) : Finds automaton cursor
      (matcher.longestMatch automaton cursor).2.1 (matcher.longestMatch automaton cursor).2.2 := by
  rw [longestMatch_eq]
  refine finds_run inRange inside (Nat.zero_le _) ?_ ?_ ?_
  · exact Automaton.longest_nil automaton
  · exact hasRead_enter inRange sound
  · rw [Cursor.length_text]
    exact Nat.lt_succ_self _

/-- The matchers that there are: those that were used for any number of matches before, each
with an automaton and an input of its own. -/
inductive Reachable : Matcher → Prop where
  | fresh : Reachable .fresh
  | used {matcher : Matcher} (before : Reachable matcher) (automaton : Automaton)
      (cursor : Cursor) : Reachable (matcher.longestMatch automaton cursor).1

theorem Reachable.sound (reachable : Reachable matcher) : matcher.Sound := by
  induction reachable with
  | fresh => exact sound_fresh
  | used _ automaton cursor ih => exact sound_longestMatch automaton cursor ih

/-- Whatever a matcher was used for before, a match with an automaton whose moves stay in
range is the longest one that is not empty, for the least pattern that accepts it, and there
is none only if nothing is accepted. -/
theorem longestMatch_exact (inRange : automaton.InRange) (reachable : Reachable matcher)
    (inside : cursor.Inside) (readable : cursor.source.failure = none) :
    (∀ length pattern,
      (matcher.longestMatch automaton cursor).2.2 = .ok (some ⟨length, pattern⟩) ↔
        IsGreatest {length | automaton.Begins cursor.text length} length ∧
          IsLeast {pattern | automaton.Accepts (cursor.text.take length) pattern} pattern) ∧
      ((matcher.longestMatch automaton cursor).2.2 = .ok none ↔
        ∀ length, ¬ automaton.Begins cursor.text length) := by
  have finds := finds_longestMatch inRange reachable.sound inside
  have exact : ∀ best, (matcher.longestMatch automaton cursor).2.2 = .ok best ↔
      automaton.Longest cursor.text best := by
    intro best
    have answers := finds.answers
    generalize (matcher.longestMatch automaton cursor).2.2 = answer at answers
    cases answer with
    | error failure => cases readable.symm.trans answers.1
    | ok found =>
        constructor
        · intro same
          exact Except.ok.inj same ▸ answers.1
        · intro longest
          rw [answers.1.unique longest]
  exact ⟨fun length pattern => exact (some ⟨length, pattern⟩), exact none⟩

/-- `a` as pattern 0 and `ab*` as pattern 1, with silent moves in circles -/
def cyclicAutomaton : Automaton where
  states := #[{ epsilons := [1, 2] },
    { transitions := [⟨.single 'a', 3⟩], epsilons := [0] },
    { transitions := [⟨.single 'a', 4⟩], epsilons := [1] },
    { transitions := [⟨.single 'b', 3⟩], epsilons := [3], accept := some 1 },
    { accept := some 0 }]
  start := 0

/-- Of `ab` pattern 1 accepts more than pattern 0, also when the matcher was used before on
an input that broke off. -/
theorem cyclicAutomaton_longest :
    IsGreatest {length | cyclicAutomaton.Begins ['a', 'b', 'a'] length} 2 ∧
      IsLeast {pattern | cyclicAutomaton.Accepts ['a', 'b'] pattern} 1 := by
  let broken : Cursor := .ofSource ⟨[#['a']], some .notUtf8⟩
  let lines : Cursor := .ofSource ⟨[#['a'], #['b', 'a']], none⟩
  have inRange : cyclicAutomaton.InRange := Automaton.inRange_of_states (by decide)
  obtain ⟨found, _⟩ := longestMatch_exact inRange (.used .fresh cyclicAutomaton broken)
    (Cursor.inside_ofSource lines.source) rfl
  exact (found 2 1).mp (by decide +kernel)

end Matcher

end StrongLL
