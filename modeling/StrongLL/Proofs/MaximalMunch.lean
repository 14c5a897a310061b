import StrongLL.Proofs.Automaton.Compile
import StrongLL.Proofs.Automaton.LongestMatch

/-!
# Maximal munch

A text is cut into pieces from left to right. Each piece is the longest one that a pattern
matches, and belongs to the pattern declared first of those that match it; where no pattern
matches, one character is cut off. That is all there is to a scanner: how the text comes in
lines, what is buffered and what the matcher did before do not show.
-/

namespace StrongLL

/-! ## Cutting a text into pieces -/

namespace Munch

variable {caseInsensitive : Bool} {patterns : List Pattern}

/-- Some pattern matches the first `length` characters of a text, which are not none. -/
def Matched (caseInsensitive : Bool) (patterns : List Pattern) (text : List Char)
    (length : Nat) : Prop :=
  0 < length ∧ length ≤ text.length ∧
    ∃ pattern ∈ patterns, text.take length ∈ pattern.language caseInsensitive

/-- What a scanner gives for a piece that a pattern matches. An error pattern is reported
also when it is ignored. -/
def verdict (pattern : Pattern) (image : List Char) (position : Position) :
    Option (Except Diagnostic Token) :=
  match pattern.errorMessage, pattern.ignoreMessage with
  | some message, _ =>
      some (.error (.located (.invalidToken (String.ofList image) message) position))
  | none, some _ => none
  | none, none => some (.ok { id := pattern.id, image := String.ofList image, position })

/-- The length of the first piece of a text, and what a scanner gives for it. -/
inductive Cuts (caseInsensitive : Bool) (patterns : List Pattern) (position : Position)
    (text : List Char) : (length : Nat) → Option (Except Diagnostic Token) → Prop where
  | munched {length : Nat} {before behind : List Pattern} {pattern : Pattern}
      (longest : IsGreatest {length | Matched caseInsensitive patterns text length} length)
      (declared : patterns = before ++ pattern :: behind)
      (matched : text.take length ∈ pattern.language caseInsensitive)
      (first : ∀ other ∈ before, text.take length ∉ other.language caseInsensitive) :
      Cuts caseInsensitive patterns position text length
        (verdict pattern (text.take length) position)
  | stray {char : Char} {rest : List Char} (shape : text = char :: rest)
      (unmatched : ∀ length, ¬ Matched caseInsensitive patterns text length) :
      Cuts caseInsensitive patterns position text 1
        (some (.error (.located (.unexpectedChar char) position)))

/-- The pieces of a text from a position on, each with what a scanner gives for it. -/
inductive Pieces (caseInsensitive : Bool) (patterns : List Pattern) :
    Position → List Char → List (List Char × Option (Except Diagnostic Token)) → Prop where
  | done (position : Position) : Pieces caseInsensitive patterns position [] []
  | cut {position : Position} {text : List Char} {length : Nat}
      {given : Option (Except Diagnostic Token)}
      {pieces : List (List Char × Option (Except Diagnostic Token))}
      (cuts : Cuts caseInsensitive patterns position text length given)
      (others : Pieces caseInsensitive patterns (position.advanceBy (text.take length))
        (text.drop length) pieces) :
      Pieces caseInsensitive patterns position text ((text.take length, given) :: pieces)

variable {position : Position} {text : List Char} {length : Nat}
  {given : Option (Except Diagnostic Token)}
  {pieces others : List (List Char × Option (Except Diagnostic Token))}

theorem Cuts.length_pos (cuts : Cuts caseInsensitive patterns position text length given) :
    0 < length ∧ length ≤ text.length := by
  cases cuts with
  | munched longest => exact ⟨longest.1.1, longest.1.2.1⟩
  | stray shape => simp [shape]

theorem not_cuts_nil : ¬ Cuts caseInsensitive patterns position [] length given := fun cuts =>
  absurd cuts.length_pos.2 (Nat.not_le.mpr cuts.length_pos.1)

/-- Of the patterns that match a text one is declared first. -/
theorem first_unique {before behind before' behind' : List Pattern} {pattern pattern' : Pattern}
    (declared : before ++ pattern :: behind = before' ++ pattern' :: behind')
    (matched : text ∈ pattern.language caseInsensitive)
    (first : ∀ other ∈ before, text ∉ other.language caseInsensitive)
    (matched' : text ∈ pattern'.language caseInsensitive)
    (first' : ∀ other ∈ before', text ∉ other.language caseInsensitive) :
    pattern = pattern' := by
  rcases List.append_eq_append_iff.mp declared with ⟨between, shape, rest⟩ | ⟨between, shape, rest⟩
  · cases between with
    | nil => exact (List.cons.inj rest).1
    | cons head between =>
        obtain rfl : pattern = head := (List.cons.inj rest).1
        exact (first' pattern (by simp [shape]) matched).elim
  · cases between with
    | nil => exact (List.cons.inj rest).1.symm
    | cons head between =>
        obtain rfl : pattern' = head := (List.cons.inj rest).1
        exact (first pattern' (by simp [shape]) matched').elim

/-- A text has one first piece. -/
theorem Cuts.unique {length' : Nat} {given' : Option (Except Diagnostic Token)}
    (left : Cuts caseInsensitive patterns position text length given)
    (right : Cuts caseInsensitive patterns position text length' given') :
    length = length' ∧ given = given' := by
  cases left with
  | munched longest declared matched first =>
      cases right with
      | munched longest' declared' matched' first' =>
          obtain rfl : length = length' := longest.unique longest'
          obtain rfl := first_unique (declared.symm.trans declared') matched first matched' first'
          exact ⟨rfl, rfl⟩
      | stray _ unmatched => exact (unmatched length longest.1).elim
  | stray shape unmatched =>
      cases right with
      | munched longest' => exact (unmatched length' longest'.1).elim
      | stray shape' =>
          obtain rfl := (List.cons.inj (shape.symm.trans shape')).1
          exact ⟨rfl, rfl⟩

/-- A text is cut into pieces in one way. -/
theorem Pieces.unique (left : Pieces caseInsensitive patterns position text pieces)
    (right : Pieces caseInsensitive patterns position text others) : pieces = others := by
  induction left generalizing others with
  | done =>
      cases right with
      | done => rfl
      | cut cuts => exact (not_cuts_nil cuts).elim
  | cut cuts _ ih =>
      cases right with
      | done => exact (not_cuts_nil cuts).elim
      | cut cuts' rest =>
          obtain ⟨rfl, rfl⟩ := cuts.unique cuts'
          rw [ih rest]

/-- Nothing of the text is lost. -/
theorem Pieces.flatten_eq (cut : Pieces caseInsensitive patterns position text pieces) :
    (pieces.map Prod.fst).flatten = text := by
  induction cut with
  | done => rfl
  | cut _ _ ih => rw [List.map_cons, List.flatten_cons, ih, List.take_append_drop]

/-- Where something is given. -/
def place : Except Diagnostic Token → Option Position
  | .ok token => some token.position
  | .error diagnostic => diagnostic.position

theorem Cuts.place_eq {answer : Except Diagnostic Token}
    (cuts : Cuts caseInsensitive patterns position text length (some answer)) :
    place answer = some position := by
  generalize shape : some answer = given at cuts
  cases cuts with
  | munched =>
      unfold verdict at shape
      split at shape
      · obtain rfl := Option.some.inj shape
        rfl
      · cases shape
      · obtain rfl := Option.some.inj shape
        rfl
  | stray =>
      obtain rfl := Option.some.inj shape
      rfl

/-- What is given for a piece stands behind the pieces before it. -/
theorem Pieces.place_eq {before behind : List (List Char × Option (Except Diagnostic Token))}
    {image : List Char} {answer : Except Diagnostic Token}
    (cut : Pieces caseInsensitive patterns position text
      (before ++ (image, some answer) :: behind)) :
    place answer = some (position.advanceBy (before.map Prod.fst).flatten) := by
  induction before generalizing position text with
  | nil =>
      cases cut with
      | cut cuts => exact cuts.place_eq
  | cons first before ih =>
      cases cut with
      | cut cuts others =>
          rw [ih others, List.map_cons, List.flatten_cons, Position.advanceBy_append]

end Munch

/-! ## What a scanner gives -/

namespace Scanner

open Munch

variable {caseInsensitive : Bool} {patterns : List Pattern} {vocabulary : Vocabulary}
  {scanner : Scanner}

/-- A scanner between two pieces of a source. -/
structure Settled (scanner : Scanner) : Prop where
  inside : scanner.cursor.Inside
  sound : scanner.matcher.Sound

theorem settled_ofSource (source : Source) : (ofSource source).Settled :=
  ⟨Cursor.inside_ofSource source, Matcher.sound_fresh⟩

/-- A scanner of a source that does not fail. -/
structure Ready (scanner : Scanner) : Prop where
  inside : scanner.cursor.Inside
  sound : scanner.matcher.Sound
  readable : scanner.cursor.source.failure = none

theorem ready_ofSource {source : Source} (readable : source.failure = none) :
    (ofSource source).Ready :=
  ⟨Cursor.inside_ofSource source, Matcher.sound_fresh, readable⟩

theorem Ready.settled (ready : scanner.Ready) : scanner.Settled := ⟨ready.inside, ready.sound⟩

/-- What becomes of a piece with what is given for it. -/
def pieceOf : Option (Except Diagnostic Token) → Piece
  | none => .ignored
  | some (.ok token) => .token token
  | some (.error diagnostic) => .faulty diagnostic

/-- What a scanner does at a place of the text. A failing source is reported where the scanner
stands, and the scanner keeps the text that is buffered. -/
inductive Takes (caseInsensitive : Bool) (patterns : List Pattern) (before after : Scanner) :
    Piece → Prop where
  | failed {failure : ReadFailure} (settled : after.Settled)
      (failing : before.cursor.source.failure = some failure)
      (readable : after.cursor.source.failure = none)
      (place : after.position = before.position) (text : after.cursor.text = before.cursor.text) :
      Takes caseInsensitive patterns before after (.faulty (unreadable failure before.position))
  | ended (settled : after.Settled) (ended : before.cursor.source.failure = none)
      (readable : after.cursor.source.failure = none) (empty : before.cursor.text = [])
      (place : after.position = before.position) (text : after.cursor.text = before.cursor.text) :
      Takes caseInsensitive patterns before after .finished
  | taken {length : Nat} {given : Option (Except Diagnostic Token)} (settled : after.Settled)
      (failure : after.cursor.source.failure = before.cursor.source.failure)
      (cuts : Cuts caseInsensitive patterns before.position before.cursor.text length given)
      (place : after.position = before.position.advanceBy (before.cursor.text.take length))
      (rest : after.cursor.text = before.cursor.text.drop length) :
      Takes caseInsensitive patterns before after (pieceOf given)

theorem classify_eq {index : Nat} {pattern : Pattern} (declared : vocabulary.at? index = some pattern)
    (image : List Char) (position : Position) :
    classify vocabulary index (String.ofList image) position =
      pieceOf (verdict pattern image position) := by
  obtain ⟨id, name, kind, text, errorMessage, ignoreMessage⟩ := pattern
  unfold classify
  rw [declared]
  cases errorMessage with
  | some message => rfl
  | none => cases ignoreMessage <;> rfl

section

variable (compiled : Vocabulary.ofPatterns patterns caseInsensitive = .ok vocabulary)
include compiled

theorem begins_iff {text : List Char} {length : Nat} :
    vocabulary.automaton.Begins text length ↔ Matched caseInsensitive patterns text length := by
  obtain ⟨_, _, accepts⟩ := Vocabulary.accepts_iff compiled
  unfold Automaton.Begins Matched
  simp only [accepts]
  grind [List.mem_iff_getElem?]

/-- The longest match is cut off for the pattern declared first. -/
theorem cuts_of_longest {text : List Char} {found : Match}
    (longest : vocabulary.automaton.Longest text (some found)) (position : Position) :
    ∃ pattern, vocabulary.at? found.pattern = some pattern ∧
      Cuts caseInsensitive patterns position text found.length
        (verdict pattern (text.take found.length) position) := by
  obtain ⟨same, _, accepts⟩ := Vocabulary.accepts_iff compiled
  obtain ⟨greatest, least, lower⟩ := longest
  obtain ⟨pattern, declared, matched⟩ := (accepts _ _).mp least
  have inside := (List.getElem?_eq_some_iff.mp declared).1
  have sets : {length | vocabulary.automaton.Begins text length} =
      {length | Matched caseInsensitive patterns text length} :=
    Set.ext fun length => begins_iff compiled
  have shape : patterns = patterns.take found.pattern ++
      pattern :: patterns.drop (found.pattern + 1) := by
    rw [← (List.getElem?_eq_some_iff.mp declared).2, ← List.drop_eq_getElem_cons inside,
      List.take_append_drop]
  have first : ∀ other ∈ patterns.take found.pattern,
      text.take found.length ∉ other.language caseInsensitive := by
    intro other member matches'
    obtain ⟨index, place⟩ := List.mem_iff_getElem?.mp member
    have bound : index < found.pattern := by
      have short := (List.getElem?_eq_some_iff.mp place).1
      rw [List.length_take] at short
      omega
    rw [List.getElem?_take_of_lt bound] at place
    exact Nat.not_lt.mpr (lower ((accepts _ index).mpr ⟨other, place, matches'⟩)) bound
  exact ⟨pattern, by rw [Vocabulary.at?, same, declared],
    .munched (sets ▸ greatest) shape matched first⟩

/-- A scanner takes the first piece off the text, unless its source fails. -/
theorem takes_piece (settled : scanner.Settled) :
    Takes caseInsensitive patterns scanner (scanner.piece vocabulary).1
      (scanner.piece vocabulary).2 := by
  obtain ⟨cursor, matcher, position⟩ := scanner
  obtain ⟨inside, sound⟩ := settled
  simp only at inside sound
  have inRange := (Vocabulary.accepts_iff compiled).2.1
  have finds := Matcher.finds_longestMatch inRange sound inside
  have reusable := Matcher.sound_longestMatch vocabulary.automaton cursor sound
  unfold piece
  simp only
  split
  · rename_i moved after failure matched
    rw [matched] at finds reusable
    obtain ⟨failing, readable⟩ := finds.answers
    exact .failed ⟨finds.inside, reusable⟩ failing readable rfl finds.text
  · rename_i moved after found matched
    rw [matched] at finds reusable
    obtain ⟨longest, buffered, failure⟩ := finds.answers
    obtain ⟨pattern, declared, cuts⟩ := cuts_of_longest compiled longest position
    obtain ⟨stillInside, taken, rest, source⟩ :=
      Cursor.consume_ahead (buffered found rfl)
    rw [finds.text] at taken rest
    have shape : classify vocabulary found.pattern
        (String.ofList (after.consume found.length).2) position =
          pieceOf (verdict pattern (cursor.text.take found.length) position) := by
      rw [taken]
      exact classify_eq declared _ position
    simp only [consume, shape]
    refine .taken ⟨stillInside, reusable⟩ ?_ cuts ?_ rest
    · simp only [source]
      exact failure
    · simp only [taken]
  · rename_i moved after matched
    rw [matched] at finds reusable
    obtain ⟨longest, _, failure⟩ := finds.answers
    have sees := Cursor.sees_peek finds.inside 0
    split
    · rename_i behind reason peeked
      rw [peeked] at sees
      obtain ⟨_, failing, readable⟩ := sees.tells
      exact .failed ⟨sees.inside, reusable⟩ (failure.symm.trans failing) readable rfl
        (sees.text.trans finds.text)
    · rename_i behind peeked
      rw [peeked] at sees
      obtain ⟨nothing, readable, stillReadable⟩ := sees.tells
      have empty : cursor.text = [] := by
        rw [← finds.text]
        exact List.length_eq_zero_iff.mp (by simpa using nothing)
      exact .ended ⟨sees.inside, reusable⟩ (failure.symm.trans readable) stillReadable empty rfl
        (sees.text.trans finds.text)
    · rename_i behind char peeked
      rw [peeked] at sees
      obtain ⟨front, buffered, same⟩ := sees.tells
      obtain ⟨rest, shape⟩ : ∃ rest, cursor.text = char :: rest := by
        rw [← finds.text]
        exact List.head?_eq_some_iff.mp (List.head?_eq_getElem? ▸ front)
      obtain ⟨stillInside, taken, others, source⟩ := Cursor.consume_ahead buffered
      rw [sees.text, finds.text] at taken others
      have unmatched : ∀ length, ¬ Matched caseInsensitive patterns cursor.text length :=
        fun length matched => longest length ((begins_iff compiled).mpr matched)
      change Takes _ _ _ _ (pieceOf (some (.error (.located (.unexpectedChar char) position))))
      refine .taken ⟨stillInside, reusable⟩ ?_ (.stray shape unmatched) ?_ others
      · simp only [consume, source]
        exact same.trans failure
      · simp only [consume, taken]

/-- A scanner of a source that does not fail takes the first piece off the text. -/
theorem piece_cuts (ready : scanner.Ready) : (scanner.piece vocabulary).1.Ready ∧
    ((scanner.cursor.text = [] ∧ (scanner.piece vocabulary).2 = .finished) ∨
      ∃ length given, Cuts caseInsensitive patterns scanner.position scanner.cursor.text length
          given ∧ (scanner.piece vocabulary).2 = pieceOf given ∧
        (scanner.piece vocabulary).1.position =
            scanner.position.advanceBy (scanner.cursor.text.take length) ∧
          (scanner.piece vocabulary).1.cursor.text = scanner.cursor.text.drop length) := by
  have takes := takes_piece compiled ready.settled
  generalize (scanner.piece vocabulary).2 = piece at takes ⊢
  cases takes with
  | failed _ failing => cases ready.readable.symm.trans failing
  | ended settled _ readable empty _ _ =>
      exact ⟨⟨settled.inside, settled.sound, readable⟩, .inl ⟨empty, rfl⟩⟩
  | taken settled failure cuts place rest =>
      exact ⟨⟨settled.inside, settled.sound, failure.trans ready.readable⟩,
        .inr ⟨_, _, cuts, rfl, place, rest⟩⟩

/-- What a scanner has before it can be cut into pieces. -/
theorem exists_pieces (ready : scanner.Ready) : ∃ pieces,
    Pieces caseInsensitive patterns scanner.position scanner.cursor.text pieces := by
  generalize bound : scanner.cursor.text.length = length
  induction length using Nat.strong_induction_on generalizing scanner with
  | _ length ih =>
      obtain ⟨after, ⟨empty, _⟩ | ⟨count, given, cuts, _, place, rest⟩⟩ := piece_cuts compiled ready
      · rw [empty]
        exact ⟨[], .done _⟩
      · have shorter : (scanner.piece vocabulary).1.cursor.text.length < length := by
          have positive := cuts.length_pos
          rw [rest, List.length_drop]
          omega
        obtain ⟨pieces, others⟩ := ih _ shorter after rfl
        rw [place, rest] at others
        exact ⟨_, .cut cuts others⟩

/-- A scanner that has some pieces before it answers what is given first, and leaves the pieces
behind it. -/
def Delivers (caseInsensitive : Bool) (patterns : List Pattern)
    (pieces : List (List Char × Option (Except Diagnostic Token)))
    (asked : Scanner × Except Diagnostic (Option Token)) : Prop :=
  (asked.2 = .ok none ∧ pieces.filterMap Prod.snd = []) ∨
    ∃ answer rest, asked.2 = some <$> answer ∧ asked.1.Ready ∧
      Pieces caseInsensitive patterns asked.1.position asked.1.cursor.text rest ∧
      pieces.filterMap Prod.snd = answer :: rest.filterMap Prod.snd

/-- Asking for a token drops the pieces that nothing is given for. -/
theorem delivers_nextWithin {fuel : Nat}
    {pieces : List (List Char × Option (Except Diagnostic Token))} (ready : scanner.Ready)
    (cut : Pieces caseInsensitive patterns scanner.position scanner.cursor.text pieces)
    (enough : scanner.cursor.text.length < fuel) :
    Delivers caseInsensitive patterns pieces (nextWithin vocabulary fuel scanner) := by
  induction fuel generalizing scanner pieces with
  | zero => omega
  | succ fuel ih =>
      have step := piece_cuts compiled ready
      unfold nextWithin
      generalize scanner.piece vocabulary = taken at step ⊢
      obtain ⟨after, piece⟩ := taken
      obtain ⟨stillReady, ⟨empty, rfl⟩ | ⟨count, given, cuts, rfl, place, text⟩⟩ := step
      · rw [empty] at cut
        obtain rfl := cut.unique (.done _)
        exact .inl ⟨rfl, rfl⟩
      · simp only at stillReady place text
        obtain ⟨pieces, others⟩ := exists_pieces compiled stillReady
        obtain rfl := cut.unique (.cut cuts (place ▸ text ▸ others))
        cases given with
        | none =>
            have positive := cuts.length_pos
            have delivers := @ih after pieces stillReady others
              (by rw [text, List.length_drop]; omega)
            unfold Delivers at delivers ⊢
            exact delivers
        | some answer =>
            cases answer with
            | ok token => exact .inr ⟨.ok token, pieces, rfl, stillReady, others, rfl⟩
            | error diagnostic =>
                exact .inr ⟨.error diagnostic, pieces, rfl, stillReady, others, rfl⟩

theorem delivers_next {pieces : List (List Char × Option (Except Diagnostic Token))}
    (ready : scanner.Ready)
    (cut : Pieces caseInsensitive patterns scanner.position scanner.cursor.text pieces) :
    Delivers caseInsensitive patterns pieces (scanner.next vocabulary) := by
  unfold next
  apply delivers_nextWithin compiled ready cut
  rw [Cursor.length_text]
  exact Nat.lt_succ_self _

/-- Asking for tokens up to the end gives what the pieces of the text are given. -/
theorem outputs_eq {pieces : List (List Char × Option (Except Diagnostic Token))}
    (ready : scanner.Ready)
    (cut : Pieces caseInsensitive patterns scanner.position scanner.cursor.text pieces) :
    scanner.outputs vocabulary = pieces.filterMap Prod.snd := by
  have asked := delivers_next compiled ready cut
  induction scanner using outputs.induct vocabulary generalizing pieces with
  | case1 scanner after token given ih =>
      rw [given] at asked
      rcases asked with ⟨never, _⟩ | ⟨answer, rest, answered, stillReady, others, first⟩
      · cases never
      · obtain ⟨_, rfl, same⟩ := map_eq_ok.mp answered.symm
        obtain rfl := Option.some.inj same
        rw [outputs_token given, first,
          ih stillReady others (delivers_next compiled stillReady others)]
  | case2 scanner after diagnostic given ih =>
      rw [given] at asked
      rcases asked with ⟨never, _⟩ | ⟨answer, rest, answered, stillReady, others, first⟩
      · cases never
      · obtain rfl := map_eq_error.mp answered.symm
        rw [outputs_error given, first,
          ih stillReady others (delivers_next compiled stillReady others)]
  | case3 scanner after given =>
      rw [given] at asked
      rcases asked with ⟨_, nothing⟩ | ⟨answer, rest, answered, _⟩
      · rw [outputs_end given, nothing]
      · obtain ⟨_, _, never⟩ := map_eq_ok.mp answered.symm
        cases never

/-- What a scanner gives up to the end of a source is what maximal munch gives for the text of
the source, whatever lines it comes in: the text is cut into pieces in one way, nothing of it
is lost, and what is given for a piece stands behind the pieces before it. -/
theorem outputs_maximal_munch {source : Source} (readable : source.failure = none) :
    ∃ pieces, (∀ others, Pieces caseInsensitive patterns .start source.text others ↔
        others = pieces) ∧
      (ofSource source).outputs vocabulary = pieces.filterMap Prod.snd ∧
      (pieces.map Prod.fst).flatten = source.text ∧
      (∀ before image answer behind, pieces = before ++ (image, some answer) :: behind →
        place answer = some (Position.start.advanceBy (before.map Prod.fst).flatten)) ∧
      ∀ other : Source, other.failure = none → other.text = source.text →
        (ofSource other).outputs vocabulary = (ofSource source).outputs vocabulary := by
  have cutUp : ∀ {other : Source} {pieces}, other.failure = none →
      Pieces caseInsensitive patterns .start other.text pieces →
        (ofSource other).outputs vocabulary = pieces.filterMap Prod.snd := by
    intro other pieces readable cut
    apply outputs_eq compiled (ready_ofSource readable)
    rwa [show (ofSource other).cursor.text = other.text from Cursor.text_ofSource other]
  obtain ⟨pieces, cut⟩ := exists_pieces compiled (ready_ofSource readable)
  rw [show (ofSource source).cursor.text = source.text from Cursor.text_ofSource source] at cut
  refine ⟨pieces, fun others => ⟨fun also => also.unique cut, fun same => same ▸ cut⟩,
    cutUp readable cut, cut.flatten_eq, ?_, ?_⟩
  · rintro before image answer behind rfl
    exact cut.place_eq
  · intro other also same
    rw [cutUp readable cut, cutUp also (same ▸ cut)]

end

/-- `"a"` and `"ab"` -/
def nestedLiterals : List Pattern := [
  { id := 0, name := "A", kind := .literal, text := "a" },
  { id := 1, name := "AB", kind := .literal, text := "ab" }]

theorem matched_nestedLiterals {text : List Char} {length : Nat} :
    Matched false nestedLiterals text length ↔ 0 < length ∧ length ≤ text.length ∧
      (text.take length = ['a'] ∨ text.take length = ['a', 'b']) := by
  have single : Pattern.language false
      { id := 0, name := "A", kind := .literal, text := "a" } = {['a']} := rfl
  have double : Pattern.language false
      { id := 1, name := "AB", kind := .literal, text := "ab" } = {['a', 'b']} := rfl
  simp only [Matched, nestedLiterals, List.mem_cons, List.not_mem_nil, or_false,
    exists_eq_or_imp, exists_eq_left, single, double, Regex.Expr.mem_singleton]

/-- Of `aab` the second `a` goes to the longer token, also when a line ends within it. -/
theorem nestedLiterals_munched : ∃ vocabulary,
    Vocabulary.ofPatterns nestedLiterals false = .ok vocabulary ∧
      (ofSource ⟨[#['a', 'a'], #['b']], none⟩).outputs vocabulary =
        [.ok ⟨0, "a", ⟨1, 1, 0⟩⟩, .ok ⟨1, "ab", ⟨1, 2, 1⟩⟩] := by
  have succeeds : (Vocabulary.ofPatterns nestedLiterals false).toOption.any
    (fun _ => true) = true := rfl
  obtain ⟨vocabulary, compiled, _⟩ := exists_ok_of_any succeeds
  refine ⟨vocabulary, compiled, ?_⟩
  obtain ⟨pieces, unique, outputs, _⟩ :=
    @outputs_maximal_munch _ _ _ compiled ⟨[#['a', 'a'], #['b']], none⟩ rfl
  have first : Cuts false nestedLiterals .start ['a', 'a', 'b'] 1
      (some (.ok ⟨0, "a", ⟨1, 1, 0⟩⟩)) := by
    refine @Cuts.munched _ _ _ _ 1 [] _ _ ⟨matched_nestedLiterals.mpr (by decide), ?_⟩ rfl
      (Regex.Expr.mem_singleton.mpr rfl) (by simp)
    intro length matched
    match length, (matched_nestedLiterals.mp matched).2.2 with
    | 0, _ => decide
    | 1, _ => decide
    | more + 2, shape => simp at shape
  have second : Cuts false nestedLiterals ⟨1, 2, 1⟩ ['a', 'b'] 2
      (some (.ok ⟨1, "ab", ⟨1, 2, 1⟩⟩)) := by
    refine @Cuts.munched _ _ _ _ 2 (nestedLiterals.take 1) _ _
      ⟨matched_nestedLiterals.mpr (by decide), ?_⟩ rfl (Regex.Expr.mem_singleton.mpr rfl) ?_
    · exact fun length matched => matched.2.1
    · intro other member also
      obtain rfl := List.mem_singleton.mp member
      cases Regex.Expr.mem_singleton.mp also
  have cut : Pieces false nestedLiterals .start ['a', 'a', 'b'] _ :=
    .cut first (.cut second (.done _))
  rw [outputs, ← (unique _).mp cut]
  rfl

end Scanner

end StrongLL
