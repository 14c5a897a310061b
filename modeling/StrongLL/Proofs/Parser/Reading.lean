import StrongLL.Proofs.MaximalMunch
import StrongLL.Proofs.Parser.Reset

/-!
# Parsers that read a source

A scanner of a vocabulary gives tokens of patterns, and reports what is wrong with the text or
with the reading of it, but never a fault of its own. So all that a parser ever has in its
buffer are tokens of patterns, and where its input is exhausted it stands behind the text.
-/

namespace StrongLL

/-- A diagnostic that blames the parser for nothing at all. -/
def Diagnostic.OfInput (diagnostic : Diagnostic) : Prop :=
  ∀ fault, diagnostic.problem ≠ .internal fault

namespace Munch

variable {caseInsensitive : Bool} {patterns : List Pattern} {position : Position}
  {text : List Char} {length : Nat}

/-- What is given for a piece is a token of a pattern, or something wrong with the text. -/
def Given (patterns : List Pattern) : Except Diagnostic Token → Prop
  | .ok token => ∃ pattern ∈ patterns, pattern.id = token.id
  | .error diagnostic => diagnostic.OfInput

theorem Cuts.given {answer : Except Diagnostic Token}
    (cuts : Cuts caseInsensitive patterns position text length (some answer)) :
    Given patterns answer := by
  generalize shape : some answer = given at cuts
  cases cuts with
  | @munched _ before behind pattern longest declared matched first =>
      have member : pattern ∈ patterns := by simp [declared]
      unfold verdict at shape
      split at shape
      · obtain rfl := Option.some.inj shape
        exact fun fault => nofun
      · cases shape
      · obtain rfl := Option.some.inj shape
        exact ⟨pattern, member, rfl⟩
  | stray =>
      obtain rfl := Option.some.inj shape
      exact fun fault => nofun

end Munch

/-! ## Scanners -/

namespace Scanner

open Munch

variable {caseInsensitive : Bool} {patterns : List Pattern} {vocabulary : Vocabulary}
  {scanner : Scanner}

/-- The place behind the text. -/
def ending (scanner : Scanner) : Position := scanner.position.advanceBy scanner.cursor.text

/-- What comes of asking a scanner: it stays in its text, and what it gives is a token of a
pattern or no fault of its own. At the end nothing is left of the text. -/
structure Gives (patterns : List Pattern) (before after : Scanner)
    (answer : Except Diagnostic (Option Token)) : Prop where
  settled : after.Settled
  ending : after.ending = before.ending
  answers : match answer with
    | .ok (some token) => Given patterns (.ok token)
    | .ok none => after.cursor.text = []
    | .error diagnostic => Given patterns (.error diagnostic)

theorem Takes.ending_eq {before after : Scanner} {piece : Piece}
    (takes : Takes caseInsensitive patterns before after piece) : after.ending = before.ending := by
  unfold ending
  cases takes with
  | failed _ _ _ place text => rw [place, text]
  | ended _ _ _ _ place text => rw [place, text]
  | taken _ _ _ place rest =>
      rw [place, rest, ← Position.advanceBy_append, List.take_append_drop]

theorem Takes.settled {before after : Scanner} {piece : Piece}
    (takes : Takes caseInsensitive patterns before after piece) : after.Settled := by
  cases takes with
  | failed settled => exact settled
  | ended settled => exact settled
  | taken settled => exact settled

section

variable (compiled : Vocabulary.ofPatterns patterns caseInsensitive = .ok vocabulary)
include compiled

theorem gives_nextWithin {fuel : Nat} (settled : scanner.Settled)
    (enough : scanner.cursor.text.length < fuel) :
    Gives patterns scanner (nextWithin vocabulary fuel scanner).1
      (nextWithin vocabulary fuel scanner).2 := by
  induction fuel generalizing scanner with
  | zero => omega
  | succ fuel ih =>
      have takes := takes_piece compiled settled
      unfold nextWithin
      generalize scanner.piece vocabulary = taken at takes ⊢
      obtain ⟨after, piece⟩ := taken
      have still := takes.settled
      have same := takes.ending_eq
      simp only at takes still same
      cases takes with
      | failed =>
          refine ⟨still, same, ?_⟩
          intro fault never
          cases never
      | ended _ _ _ empty _ text => exact ⟨still, same, text.trans empty⟩
      | @taken length given _ _ cuts _ rest =>
          cases given with
          | none =>
              have shorter : after.cursor.text.length < fuel := by
                have positive := cuts.length_pos
                rw [rest, List.length_drop]
                omega
              have further := ih still shorter
              exact ⟨further.settled, further.ending.trans same, further.answers⟩
          | some answer =>
              cases answer with
              | ok token => exact ⟨still, same, cuts.given⟩
              | error diagnostic => exact ⟨still, same, cuts.given⟩

theorem gives_next (settled : scanner.Settled) :
    Gives patterns scanner (scanner.next vocabulary).1 (scanner.next vocabulary).2 := by
  apply gives_nextWithin compiled settled
  rw [Cursor.length_text]
  exact Nat.lt_succ_self _

/-- All that a scanner gives up to the end is a token of a pattern or no fault of its own. -/
theorem given_outputs (settled : scanner.Settled) :
    ∀ answer ∈ scanner.outputs vocabulary, Given patterns answer := by
  have gives := gives_next compiled settled
  induction scanner using outputs.induct vocabulary with
  | case1 scanner after token given ih =>
      rw [given] at gives
      rw [outputs_token given, List.forall_mem_cons]
      exact ⟨gives.answers, ih gives.settled (gives_next compiled gives.settled)⟩
  | case2 scanner after diagnostic given ih =>
      rw [given] at gives
      rw [outputs_error given, List.forall_mem_cons]
      exact ⟨gives.answers, ih gives.settled (gives_next compiled gives.settled)⟩
  | case3 scanner after given => simp [outputs_end given]

end

end Scanner

/-! ## Parsers -/

namespace Parser

open Munch

variable {σ : Type} {patterns : List Pattern} {caseInsensitive : Bool} {before after : Parser σ}

/-- A parser in the middle of its input: its scanner is in a text, and at the end of it once the
input is exhausted, and the buffer holds tokens of patterns. -/
structure Reading (patterns : List Pattern) (parser : Parser σ) : Prop where
  settled : parser.scanner.Settled
  ended : parser.exhausted = true → parser.scanner.cursor.text = []
  buffered : ∀ token ∈ parser.buffer, Given patterns (.ok token)

theorem reading_ofSource (patterns : List Pattern) (source : Source) (listener : σ) :
    Reading patterns (ofSource source listener) :=
  ⟨Scanner.settled_ofSource source, nofun, nofun⟩

theorem Reading.unscanned (reading : Reading patterns before) (unscanned : Unscanned before after) :
    Reading patterns after where
  settled := unscanned.scanner ▸ reading.settled
  ended := by
    rw [unscanned.scanner, unscanned.exhausted]
    exact reading.ended
  buffered token member := reading.buffered token (unscanned.buffer.subset member)

section

variable {setting : Setting σ}
  (compiled : Vocabulary.ofPatterns patterns caseInsensitive = .ok setting.grammar.vocabulary)
include compiled

theorem Reading.scanned (reading : Reading patterns before) (more : before.exhausted = false) :
    Reading patterns (scanned setting.grammar.vocabulary before) ∧
      (Parser.scanned setting.grammar.vocabulary before).scanner.ending = before.scanner.ending := by
  have gives := Scanner.gives_next compiled reading.settled
  unfold Parser.scanned
  generalize before.scanner.next setting.grammar.vocabulary = next at gives ⊢
  obtain ⟨scanner, answer⟩ := next
  match answer with
  | .ok (some token) =>
      refine ⟨⟨gives.settled, fun exhausted => ?_, fun other member => ?_⟩, gives.ending⟩
      · cases more.symm.trans exhausted
      · cases List.mem_append.mp member with
        | inl earlier => exact reading.buffered other earlier
        | inr last =>
            obtain rfl := List.mem_singleton.mp last
            exact gives.answers
  | .ok none => exact ⟨⟨gives.settled, fun _ => gives.answers, reading.buffered⟩, gives.ending⟩
  | .error diagnostic =>
      refine ⟨⟨gives.settled, fun exhausted => ?_, reading.buffered⟩, gives.ending⟩
      cases more.symm.trans exhausted

/-- Whatever a parser does, it goes on reading to the same end. -/
theorem Reading.act (reading : Reading patterns before) {act : Act}
    (allowed : act.Allowed setting.limits before) :
    Reading patterns (act.apply setting before) ∧
      (act.apply setting before).scanner.ending = before.scanner.ending := by
  by_cases other : act ≠ .scan
  · have unscanned : Unscanned before (act.apply setting before) := act.unscanned other
    exact ⟨reading.unscanned unscanned, by rw [unscanned.scanner]⟩
  · obtain rfl := not_not.mp other
    exact reading.scanned compiled allowed

theorem Run.reading {acts : List Act} (run : Run setting before acts after)
    (reading : Reading patterns before) : Reading patterns after :=
  run.last reading fun _ _ still allowed => (still.act compiled allowed).1

end

section

variable {declaration : Ebnf.Declaration} {grammar : Grammar}
  (built : Grammar.build declaration = .ok grammar) {parser : Parser σ}
include built

theorem Reachable.reading (reachable : Reachable grammar parser) :
    Reading declaration.patterns parser := by
  obtain ⟨_, compiled, _⟩ := Grammar.build_eq_ok.mp built
  induction reachable with
  | fresh source listener => exact reading_ofSource _ source listener
  | @parsed parser before setting same ih =>
      obtain ⟨acts, last, run, ended⟩ := acted_parse setting parser
      have start : Reading declaration.patterns parser.prepare :=
        ⟨ih.settled, ih.ended, ih.buffered⟩
      have reading := run.reading (same ▸ compiled) start
      rw [ended]
      exact ⟨reading.settled, reading.ended, reading.buffered⟩
  | reset before source ih =>
      exact ⟨⟨Cursor.inside_ofSource source, ih.settled.sound⟩, nofun, nofun⟩
  | handled before listener ih => exact ⟨ih.settled, ih.ended, ih.buffered⟩

/-- At every moment of a parse the parser reads its text. -/
theorem Reachable.reading_run (reachable : Reachable grammar parser) {setting : Setting σ}
    (same : setting.grammar = grammar) {acts : List Act}
    (run : Run setting parser.prepare acts after) : Reading declaration.patterns after := by
  obtain ⟨_, compiled, _⟩ := Grammar.build_eq_ok.mp built
  have reading := reachable.reading built
  exact run.reading (same ▸ compiled) ⟨reading.settled, reading.ended, reading.buffered⟩

end

end Parser

end StrongLL
