import StrongLL.Scanner

/-!
# Scanning comes to an end

Looking ahead reads lines into the buffer and loses nothing, and a piece that is taken
off the input is not empty. Each piece therefore leaves fewer characters, or is the
one failure of the source.
-/

namespace StrongLL

/-! ## Looking ahead -/

/-- What a look ahead does to a cursor: characters that are still to come stay so, and
a failure does not come back. -/
structure Cursor.Looks (before after : Cursor) : Prop where
  remaining : after.remaining ≤ before.remaining
  failure : after.source.failure.isSome = true → before.source.failure.isSome = true
  buffered : before.position < before.buffer.size → after.position < after.buffer.size

namespace Cursor

theorem Looks.refl (cursor : Cursor) : Looks cursor cursor := ⟨Nat.le_refl _, id, id⟩

theorem Looks.trans {first second third : Cursor} (left : Looks first second)
    (right : Looks second third) : Looks first third :=
  ⟨Nat.le_trans right.remaining left.remaining, left.failure ∘ right.failure,
    right.buffered ∘ left.buffered⟩

theorem size_cons (line : Array Char) (unread : List (Array Char))
    (failure : Option ReadFailure) :
    (Source.mk (line :: unread) failure).size = line.size + (Source.mk unread failure).size := by
  have grows : ∀ (lines : List (Array Char)) (total : Nat),
      lines.foldl (fun total line => total + line.size) total =
        total + lines.foldl (fun total line => total + line.size) 0 := by
    intro lines
    induction lines with
    | nil => simp
    | cons first rest ih =>
        intro total
        rw [List.foldl_cons, ih, List.foldl_cons, ih (0 + first.size)]
        omega
  simp only [Source.size, List.foldl_cons]
  rw [grows]
  omega

/-- A line that is read goes from the source to the buffer. -/
theorem looks_fill (cursor : Cursor) {line : Array Char} {unread : List (Array Char)}
    (lines : cursor.source.lines = line :: unread) : Looks cursor (cursor.fill line unread) := by
  obtain ⟨buffer, position, ⟨sourceLines, failure⟩⟩ := cursor
  obtain rfl : sourceLines = line :: unread := lines
  unfold fill
  simp only
  split
  · refine ⟨?_, id, fun inside => ?_⟩
    · simp only [remaining, size_cons, Array.size_append, Array.size_extract]
      omega
    · simp only at inside
      simp only [Array.size_append, Array.size_extract]
      omega
  · refine ⟨?_, id, fun inside => ?_⟩
    · simp only [remaining, size_cons, Array.size_append]
      omega
    · simp only at inside
      simp only [Array.size_append]
      omega

/-- What the answer of a look ahead says about the cursor behind it. -/
def Answered (before after : Cursor) (offset : Nat) :
    Except ReadFailure (Option Char) → Prop
  | .error _ => before.source.failure.isSome = true ∧ after.source.failure = none
  | .ok none => True
  | .ok (some _) => after.position + offset < after.buffer.size

theorem looks_lookBeyond (offset : Nat) {unread : List (Array Char)} {cursor : Cursor}
    (lines : cursor.source.lines = unread) :
    Looks cursor (lookBeyond offset unread cursor).1 ∧
      Answered cursor (lookBeyond offset unread cursor).1 offset
        (lookBeyond offset unread cursor).2 := by
  induction unread generalizing cursor with
  | nil =>
      have ended : Looks cursor { cursor with source := .empty } := by
        refine ⟨?_, fun failed => ?_, id⟩
        · simp only [remaining, Source.empty, Source.size, List.foldl_nil]
          omega
        · simp [Source.empty] at failed
      unfold lookBeyond
      simp only
      cases failure : cursor.source.failure with
      | none => exact ⟨ended, trivial⟩
      | some reason => exact ⟨ended, by simp [Answered, failure, Source.empty]⟩
  | cons line unread ih =>
      have filled := looks_fill cursor lines
      have rest : (cursor.fill line unread).source.lines = unread := by
        unfold fill
        simp only
        split <;> rfl
      unfold lookBeyond
      simp only
      split
      · rename_i char found
        exact ⟨filled, (Array.getElem?_eq_some_iff.mp found).1⟩
      · obtain ⟨looks, answered⟩ := ih rest
        refine ⟨filled.trans looks, ?_⟩
        generalize (lookBeyond offset unread (cursor.fill line unread)).2 = answer at answered
        match answer with
        | .error reason => exact ⟨filled.failure answered.1, answered.2⟩
        | .ok none => trivial
        | .ok (some char) => exact answered

theorem looks_peek (cursor : Cursor) (offset : Nat) :
    Looks cursor (cursor.peek offset).1 ∧
      Answered cursor (cursor.peek offset).1 offset (cursor.peek offset).2 := by
  unfold peek
  split
  · rename_i char found
    exact ⟨.refl cursor, (Array.getElem?_eq_some_iff.mp found).1⟩
  · exact looks_lookBeyond offset rfl

/-- Characters that are taken no longer come. -/
theorem remaining_consume_lt {cursor : Cursor} {count : Nat} (positive : 0 < count)
    (buffered : cursor.position < cursor.buffer.size) :
    (cursor.consume count).1.remaining < cursor.remaining := by
  simp only [consume, remaining]
  omega

end Cursor

/-! ## Matching -/

namespace Matcher

/-- A match takes at least one character, and these are buffered. -/
def Found (before after : Cursor) : Except ReadFailure (Option Match) → Prop
  | .error _ => before.source.failure.isSome = true ∧ after.source.failure = none
  | .ok none => True
  | .ok (some found) => 0 < found.length ∧ after.position < after.buffer.size

theorem Found.of_looks {first before after : Cursor} (looks : Cursor.Looks first before)
    {answer : Except ReadFailure (Option Match)} (found : Found before after answer) :
    Found first after answer := by
  match answer with
  | .error _ => exact ⟨looks.failure found.1, found.2⟩
  | .ok none => trivial
  | .ok (some _) => exact found

theorem found_best {cursor after : Cursor} {best : Option Match}
    (before : ∀ found ∈ best, 0 < found.length ∧ cursor.position < cursor.buffer.size)
    (looks : Cursor.Looks cursor after) : Found cursor after (.ok best) := by
  cases best with
  | none => trivial
  | some found => exact ⟨(before found rfl).1, looks.buffered (before found rfl).2⟩

theorem looks_run (automaton : Automaton) {fuel : Nat} {matcher : Matcher} {cursor : Cursor}
    {length : Nat} {best : Option Match}
    (before : ∀ found ∈ best, 0 < found.length ∧ cursor.position < cursor.buffer.size) :
    Cursor.Looks cursor (run automaton fuel matcher cursor length best).2.1 ∧
      Found cursor (run automaton fuel matcher cursor length best).2.1
        (run automaton fuel matcher cursor length best).2.2 := by
  induction fuel generalizing matcher cursor length best with
  | zero => exact ⟨.refl cursor, found_best before (.refl cursor)⟩
  | succ fuel ih =>
      obtain ⟨looks, answered⟩ := Cursor.looks_peek cursor length
      unfold run
      split
      · exact ⟨.refl cursor, found_best before (.refl cursor)⟩
      · split
        · rename_i after failure peeked
          rw [peeked] at looks answered
          exact ⟨looks, answered⟩
        · rename_i after peeked
          rw [peeked] at looks
          exact ⟨looks, found_best before looks⟩
        · rename_i after char peeked
          rw [peeked] at looks answered
          have inside : after.position < after.buffer.size :=
            Nat.lt_of_le_of_lt (Nat.le_add_right _ _) answered
          have goesOn : ∀ (moved : Matcher) (better : Option Match),
              (∀ found ∈ better, 0 < found.length ∧ after.position < after.buffer.size) →
              Cursor.Looks cursor (run automaton fuel moved after (length + 1) better).2.1 ∧
                Found cursor (run automaton fuel moved after (length + 1) better).2.1
                  (run automaton fuel moved after (length + 1) better).2.2 := by
            intro moved better promised
            obtain ⟨further, found⟩ := @ih moved after (length + 1) better promised
            exact ⟨looks.trans further, found.of_looks looks⟩
          generalize matcher.generation automaton char = moved
          obtain ⟨moved, accepted⟩ := moved
          cases accepted with
          | none => exact goesOn moved best fun found member => ⟨(before found member).1, inside⟩
          | some pattern =>
              refine goesOn moved (some ⟨length + 1, pattern⟩) fun found member => ?_
              obtain rfl := Option.some.inj member
              exact ⟨Nat.succ_pos _, inside⟩

/-- A match takes characters that are there. -/
theorem looks_longestMatch (automaton : Automaton) (matcher : Matcher) (cursor : Cursor) :
    Cursor.Looks cursor (longestMatch automaton matcher cursor).2.1 ∧
      Found cursor (longestMatch automaton matcher cursor).2.1
        (longestMatch automaton matcher cursor).2.2 :=
  looks_run automaton (by simp)

end Matcher

/-! ## Pieces of the input -/

/-- Going on in the input never brings characters or a failure back. -/
structure Scanner.Goes (before after : Scanner) : Prop where
  remaining : after.cursor.remaining ≤ before.cursor.remaining
  failure : after.cursor.source.failure.isSome = true →
    before.cursor.source.failure.isSome = true

namespace Scanner

theorem Goes.refl (scanner : Scanner) : Goes scanner scanner := ⟨Nat.le_refl _, id⟩

theorem Goes.trans {first second third : Scanner} (left : Goes first second)
    (right : Goes second third) : Goes first third :=
  ⟨Nat.le_trans right.remaining left.remaining, left.failure ∘ right.failure⟩

/-- Something was taken off the input: characters, or the failure of the source. -/
def Less (before after : Scanner) : Prop :=
  after.cursor.remaining < before.cursor.remaining ∨
    (before.cursor.source.failure.isSome = true ∧ after.cursor.source.failure = none)

/-- What taking a piece does to the input. -/
def Took (before after : Scanner) : Piece → Prop
  | .token _ | .ignored => after.cursor.remaining < before.cursor.remaining
  | .faulty _ => Less before after
  | .finished => True

theorem took_classify {vocabulary : Vocabulary} {pattern : Nat} {image : String}
    {position : Position} {before after : Scanner}
    (less : after.cursor.remaining < before.cursor.remaining) :
    Took before after (classify vocabulary pattern image position) := by
  unfold classify
  split
  · exact .inl less
  · split
    · exact .inl less
    · split
      · exact less
      · exact less

theorem took_piece (vocabulary : Vocabulary) (scanner : Scanner) :
    Goes scanner (scanner.piece vocabulary).1 ∧
      Took scanner (scanner.piece vocabulary).1 (scanner.piece vocabulary).2 := by
  obtain ⟨cursor, matcher, position⟩ := scanner
  obtain ⟨looks, found⟩ := Matcher.looks_longestMatch vocabulary.automaton matcher cursor
  unfold piece
  simp only
  split
  · rename_i moved after failure matched
    rw [matched] at looks found
    exact ⟨⟨looks.remaining, looks.failure⟩, .inr found⟩
  · rename_i moved after best matched
    rw [matched] at looks found
    have less := Cursor.remaining_consume_lt found.1 found.2
    have fewer := Nat.lt_of_lt_of_le less looks.remaining
    exact ⟨⟨Nat.le_of_lt fewer, looks.failure⟩, took_classify fewer⟩
  · rename_i moved after matched
    rw [matched] at looks
    obtain ⟨further, answered⟩ := Cursor.looks_peek after 0
    have both := looks.trans further
    split
    · rename_i behind failure peeked
      rw [peeked] at both answered
      exact ⟨⟨both.remaining, both.failure⟩, .inr ⟨looks.failure answered.1, answered.2⟩⟩
    · rename_i behind peeked
      rw [peeked] at both
      exact ⟨⟨both.remaining, both.failure⟩, trivial⟩
    · rename_i behind char peeked
      rw [peeked] at both answered
      have less := Cursor.remaining_consume_lt Nat.zero_lt_one answered
      have fewer := Nat.lt_of_lt_of_le less both.remaining
      exact ⟨⟨Nat.le_of_lt fewer, both.failure⟩, .inl fewer⟩

/-- What asking for a token does to the input. -/
def Gave (before after : Scanner) : Except Diagnostic (Option Token) → Prop
  | .ok (some _) => after.cursor.remaining < before.cursor.remaining
  | .error _ => Less before after
  | .ok none => True

theorem Gave.of_goes {first before after : Scanner} (goes : Goes first before)
    {answer : Except Diagnostic (Option Token)} (gave : Gave before after answer) :
    Gave first after answer := by
  match answer with
  | .ok (some _) => exact Nat.lt_of_lt_of_le gave goes.remaining
  | .ok none => trivial
  | .error _ =>
      exact gave.imp (Nat.lt_of_lt_of_le · goes.remaining) fun lost =>
        ⟨goes.failure lost.1, lost.2⟩

theorem gave_nextWithin (vocabulary : Vocabulary) (fuel : Nat) (scanner : Scanner) :
    Goes scanner (nextWithin vocabulary fuel scanner).1 ∧
      Gave scanner (nextWithin vocabulary fuel scanner).1
        (nextWithin vocabulary fuel scanner).2 := by
  induction fuel generalizing scanner with
  | zero => exact ⟨.refl scanner, trivial⟩
  | succ fuel ih =>
      obtain ⟨goes, took⟩ := took_piece vocabulary scanner
      unfold nextWithin
      split
      · rename_i after token taken
        rw [taken] at goes took
        exact ⟨goes, took⟩
      · rename_i after taken
        rw [taken] at goes took
        obtain ⟨further, gave⟩ := ih after
        exact ⟨goes.trans further, gave.of_goes goes⟩
      · rename_i after diagnostic taken
        rw [taken] at goes took
        exact ⟨goes, took⟩
      · rename_i after taken
        rw [taken] at goes
        exact ⟨goes, trivial⟩

/-- A token that is given has taken characters off the input. -/
theorem gave_next (vocabulary : Vocabulary) (scanner : Scanner) :
    Goes scanner (scanner.next vocabulary).1 ∧
      Gave scanner (scanner.next vocabulary).1 (scanner.next vocabulary).2 :=
  gave_nextWithin vocabulary _ scanner

/-- What is left to take off the input: its characters, and the failure of the source. -/
def left (scanner : Scanner) : Nat :=
  scanner.cursor.remaining + scanner.cursor.source.failure.toList.length

theorem Goes.left_le {before after : Scanner} (goes : Goes before after) :
    after.cursor.source.failure.toList.length ≤ before.cursor.source.failure.toList.length := by
  have kept := goes.failure
  cases later : after.cursor.source.failure with
  | none => simp
  | some reason =>
      rw [later] at kept
      obtain ⟨first, earlier⟩ := Option.isSome_iff_exists.mp (kept rfl)
      simp [earlier]

/-- Each token and each error takes something off the input. -/
theorem left_lt_of_token {vocabulary : Vocabulary} {scanner after : Scanner} {token : Token}
    (given : scanner.next vocabulary = (after, .ok (some token))) : after.left < scanner.left := by
  obtain ⟨goes, gave⟩ := gave_next vocabulary scanner
  rw [given] at goes gave
  have fewer : after.cursor.remaining < scanner.cursor.remaining := gave
  have failures : after.cursor.source.failure.toList.length ≤
      scanner.cursor.source.failure.toList.length := goes.left_le
  simp only [left]
  omega

theorem left_lt_of_error {vocabulary : Vocabulary} {scanner after : Scanner}
    {diagnostic : Diagnostic} (given : scanner.next vocabulary = (after, .error diagnostic)) :
    after.left < scanner.left := by
  obtain ⟨goes, gave⟩ := gave_next vocabulary scanner
  rw [given] at goes gave
  have failures : after.cursor.source.failure.toList.length ≤
      scanner.cursor.source.failure.toList.length := goes.left_le
  have remaining : after.cursor.remaining ≤ scanner.cursor.remaining := goes.remaining
  simp only [left]
  rcases gave with fewer | ⟨failing, silent⟩
  · simp only at fewer
    omega
  · obtain ⟨reason, failure⟩ := Option.isSome_iff_exists.mp failing
    simp only at silent
    simp only [failure, silent, Option.toList_some, Option.toList_none, List.length_cons,
      List.length_nil]
    omega

/-! ## What is delivered -/

/-- The tokens and errors that a scanner gives up to the end of input. -/
def outputs (vocabulary : Vocabulary) (scanner : Scanner) : List (Except Diagnostic Token) :=
  match _given : scanner.next vocabulary with
  | (after, .ok (some token)) => .ok token :: outputs vocabulary after
  | (after, .error diagnostic) => .error diagnostic :: outputs vocabulary after
  | (_, .ok none) => []
termination_by scanner.left
decreasing_by
  · exact left_lt_of_token _given
  · exact left_lt_of_error _given

/-- The tokens that a scanner gives, whatever errors stand between them. -/
def delivered (vocabulary : Vocabulary) (scanner : Scanner) : List Token :=
  (scanner.outputs vocabulary).filterMap Except.toOption

/-- The errors that a scanner gives. -/
def faults (vocabulary : Vocabulary) (scanner : Scanner) : List Diagnostic :=
  (scanner.outputs vocabulary).filterMap fun
    | .ok _ => none
    | .error diagnostic => some diagnostic

section

variable {vocabulary : Vocabulary} {scanner after : Scanner}

theorem outputs_token {token : Token}
    (given : scanner.next vocabulary = (after, .ok (some token))) :
    scanner.outputs vocabulary = .ok token :: after.outputs vocabulary := by
  rw [outputs]
  split
  · rename_i found
    cases found.symm.trans given
    rfl
  · rename_i found
    cases found.symm.trans given
  · rename_i found
    cases found.symm.trans given

theorem outputs_error {diagnostic : Diagnostic}
    (given : scanner.next vocabulary = (after, .error diagnostic)) :
    scanner.outputs vocabulary = .error diagnostic :: after.outputs vocabulary := by
  rw [outputs]
  split
  · rename_i found
    cases found.symm.trans given
  · rename_i found
    cases found.symm.trans given
    rfl
  · rename_i found
    cases found.symm.trans given

theorem outputs_end (given : scanner.next vocabulary = (after, .ok none)) :
    scanner.outputs vocabulary = [] := by
  rw [outputs]
  split
  · rename_i found
    cases found.symm.trans given
  · rename_i found
    cases found.symm.trans given
  · rfl

/-- A token is not empty, so there are no more of them than characters. -/
theorem length_delivered_le (vocabulary : Vocabulary) (scanner : Scanner) :
    (scanner.delivered vocabulary).length ≤ scanner.cursor.remaining := by
  induction scanner using outputs.induct vocabulary with
  | case1 scanner after token given ih =>
      have gave := (gave_next vocabulary scanner).2
      rw [given] at gave
      have fewer : after.cursor.remaining < scanner.cursor.remaining := gave
      simp only [delivered, outputs_token given, List.filterMap_cons, Except.toOption,
        List.length_cons] at ih ⊢
      omega
  | case2 scanner after diagnostic given ih =>
      have goes := (gave_next vocabulary scanner).1
      rw [given] at goes
      simp only [delivered, outputs_error given, List.filterMap_cons, Except.toOption] at ih ⊢
      exact Nat.le_trans ih goes.remaining
  | case3 scanner after given => simp [delivered, outputs_end given]

/-- The tokens up to the end of input are those that are delivered, if nothing else
is. -/
theorem allWithin_eq_ok {fuel : Nat} {taken tokens : List Token}
    (enough : scanner.cursor.remaining < fuel) :
    (allWithin vocabulary fuel scanner taken).2 = .ok tokens ↔
      ∃ more, tokens = taken.reverse ++ more ∧ scanner.outputs vocabulary = more.map .ok := by
  induction fuel generalizing scanner taken with
  | zero => omega
  | succ fuel ih =>
      have gave := (gave_next vocabulary scanner).2
      unfold allWithin
      split
      · rename_i after token given
        rw [given] at gave
        have fewer : after.cursor.remaining < scanner.cursor.remaining := gave
        rw [ih (by omega), outputs_token given]
        constructor
        · rintro ⟨more, rfl, same⟩
          exact ⟨token :: more, by simp, by simp [same]⟩
        · rintro ⟨more, rfl, same⟩
          cases more with
          | nil => cases same
          | cons first more =>
              obtain ⟨head, rest⟩ := List.cons.inj same
              obtain rfl := Except.ok.inj head
              exact ⟨more, by simp, rest⟩
      · rename_i after given
        rw [outputs_end given]
        constructor
        · intro result
          obtain rfl := Except.ok.inj result
          exact ⟨[], by simp, rfl⟩
        · rintro ⟨more, rfl, same⟩
          cases more with
          | nil => simp
          | cons first more => cases same
      · rename_i after diagnostic given
        rw [outputs_error given]
        constructor
        · intro result
          cases result
        · rintro ⟨more, rfl, same⟩
          cases more with
          | nil => cases same
          | cons first more => cases same

theorem all_eq_ok {tokens : List Token} :
    (scanner.all vocabulary).2 = .ok tokens ↔ scanner.outputs vocabulary = tokens.map .ok := by
  rw [all, allWithin_eq_ok (Nat.lt_succ_self _)]
  simp

/-- All tokens are there if no errors are. -/
theorem all_eq_ok_iff {tokens : List Token} : (scanner.all vocabulary).2 = .ok tokens ↔
    scanner.delivered vocabulary = tokens ∧ scanner.faults vocabulary = [] := by
  rw [all_eq_ok, delivered, faults]
  generalize scanner.outputs vocabulary = outputs
  induction outputs generalizing tokens with
  | nil => simp [eq_comm]
  | cons first rest ih =>
      cases first with
      | error diagnostic => cases tokens <;> simp
      | ok token =>
          cases tokens with
          | nil => simp [Except.toOption]
          | cons other tokens => simp [Except.toOption, ih, and_assoc]

end

end Scanner

end StrongLL
