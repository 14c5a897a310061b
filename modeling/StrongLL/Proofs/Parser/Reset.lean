import StrongLL.Proofs.Automaton.Compile
import StrongLL.Proofs.Parser.Honesty
import StrongLL.Proofs.Parser.Recorded
import StrongLL.Proofs.Reuse

/-!
# Parsers that are reset

A parser that is reset keeps its matcher, its log and its counters. The log and the counters
are set back where a parse begins, and of the matcher nothing can be told, so the next parse
is that of a new parser.
-/

namespace StrongLL

/-- The moves of the automaton of a grammar stay in range. -/
theorem Grammar.inRange_of_build {declaration : Ebnf.Declaration} {grammar : Grammar}
    (built : build declaration = .ok grammar) : grammar.vocabulary.automaton.InRange := by
  obtain ⟨_, compiled, _⟩ := build_eq_ok.mp built
  exact (Vocabulary.accepts_iff compiled).2.1

namespace Parser

variable {σ : Type} {grammar : Grammar} {parser : Parser σ}

/-- The parsers that there are with one grammar: limits may change from parse to parse, and
the state of the listener at any time between two of them. -/
inductive Reachable (grammar : Grammar) : Parser σ → Prop where
  | fresh (source : Source) (listener : σ) : Reachable grammar (ofSource source listener)
  | parsed {parser : Parser σ} (before : Reachable grammar parser) {setting : Setting σ}
      (same : setting.grammar = grammar) : Reachable grammar (parse setting parser).1
  | reset {parser : Parser σ} (before : Reachable grammar parser) (source : Source) :
      Reachable grammar (parser.reset source)
  | handled {parser : Parser σ} (before : Reachable grammar parser) (listener : σ) :
      Reachable grammar { parser with listener }

/-! ## Matchers of parsers -/

/-- Of all acts only a scan uses the matcher. -/
theorem Act.sound_matcher {setting : Setting σ} (sound : parser.scanner.matcher.Sound)
    (act : Act) : (act.apply setting parser).scanner.matcher.Sound := by
  by_cases other : act ≠ .scan
  · rw [(act.unscanned other).scanner]
    exact sound
  · obtain rfl := not_not.mp other
    have still := @Scanner.sound_next setting.grammar.vocabulary parser.scanner sound
    unfold apply scanned
    generalize parser.scanner.next setting.grammar.vocabulary = next at still ⊢
    dsimp only
    split
    · exact still
    · exact still
    · exact still

theorem Reachable.sound (reachable : Reachable grammar parser) :
    parser.scanner.matcher.Sound := by
  induction reachable with
  | fresh source listener => exact Matcher.sound_fresh
  | @parsed parser before setting same ih =>
      obtain ⟨acts, last, run, ended⟩ := acted_parse setting parser
      have sound : last.scanner.matcher.Sound :=
        @Run.last _ _ _ _ _ (·.scanner.matcher.Sound) run ih fun _ act sound _ =>
          act.sound_matcher sound
      rw [ended]
      exact sound
  | reset before source ih => exact ih
  | handled before listener ih => exact ih

/-! ## The next parse -/

/-- Parsers that differ in what their matchers were used for, and in what they recorded
before -/
def renewed (σ : Type) (earlier : Array TraceEvent) : Likeness σ σ where
  scanners := Scanner.Twins
  listeners := Eq
  logs := Eq
  traces left right := left = earlier ++ right
  events := Eq

theorem readsAlike_renewed {setting : Setting σ}
    (inRange : setting.grammar.vocabulary.automaton.InRange) (earlier : Array TraceEvent) :
    ReadsAlike (renewed σ earlier) setting setting where
  vocabulary := rfl
  limits := rfl
  scanners := fun _ _ twins => twins.next inRange
  positions := fun _ _ twins => twins.position
  remaining := fun _ _ twins => congrArg Cursor.remaining twins.cursor
  logs := fun _ _ diagnostic same => congrArg (· ++ [diagnostic]) same
  full := by
    rintro log _ rfl _ _
    exact Iff.rfl
  traces := by
    rintro _ trace event _ rfl rfl
    exact (Array.append_push ..).symm
  error := fun _ _ => rfl
  consume := fun _ => rfl
  skip := fun _ => rfl

theorem parsesAlike_renewed {setting : Setting σ}
    (inRange : setting.grammar.vocabulary.automaton.InRange) (earlier : Array TraceEvent) :
    ParsesAlike (renewed σ earlier) id setting setting := by
  apply parsesAlike_of_eq (readsAlike_renewed inRange earlier) rfl fun _ => rfl
  · rintro node state _ rfl
    exact ⟨rfl, rfl⟩
  · rintro node state _ rfl
    exact ⟨rfl, rfl⟩
  · rintro parent node state _ rfl
    exact ⟨rfl, rfl⟩

/-- With a sound matcher a parser that is reset parses as a new one does. -/
theorem parse_reset_of_sound {setting : Setting σ}
    (inRange : setting.grammar.vocabulary.automaton.InRange)
    (sound : parser.scanner.matcher.Sound) (source : Source) :
    (parse setting (parser.reset source)).2 =
        (parse setting (ofSource source parser.listener)).2 ∧
      Alike (renewed σ parser.trace) (parse setting (parser.reset source)).1
        (parse setting (ofSource source parser.listener)).1 := by
  apply parse_alike (parsesAlike_renewed inRange parser.trace) fun _ _ => Iff.rfl
  exact ⟨Scanner.twins_reset sound source, rfl, rfl, rfl, rfl, rfl, rfl, rfl,
    (Array.append_empty).symm⟩

/-- Whatever a parser was used for before, once it is reset the next parse comes back with
what a new parser comes back with over the same source, with the same limits and the same
listener in the same state. It makes the same calls to the listener, leaves it in the same
state, and records the same events. -/
theorem parse_reset {declaration : Ebnf.Declaration}
    (built : Grammar.build declaration = .ok grammar) (reachable : Reachable grammar parser)
    {setting : Setting σ} (same : setting.grammar = grammar) (source : Source) :
    let reused := parser.reset source
    let fresh := ofSource source parser.listener
    (parse setting reused).2 = (parse setting fresh).2 ∧
      calls setting reused = calls setting fresh ∧
        (parse setting reused).1.listener = (parse setting fresh).1.listener ∧
          (parse setting reused).1.trace = parser.trace ++ (parse setting fresh).1.trace := by
  intro reused fresh
  have inRange : setting.grammar.vocabulary.automaton.InRange := by
    rw [same]
    exact Grammar.inRange_of_build built
  obtain ⟨outcome, alike⟩ := parse_reset_of_sound inRange reachable.sound source
  have recorded : Alike (renewed (σ × List Call) parser.trace)
      (parse setting.recorded reused.recorded).1 (parse setting.recorded fresh.recorded).1 :=
    (@parse_reset_of_sound _ parser.recorded setting.recorded inRange reachable.sound source).2
  exact ⟨outcome, congrArg Prod.snd recorded.listener, alike.listener, alike.trace⟩

/-- A parse of `"aab"` as `"a"{2,3} "b"` that may take one token only leaves another one in the
buffer. Reset to `"aaab"`, the parser comes back with the node of `S`. -/
theorem countedTokens_reset : ∃ grammar root, Grammar.build Grammar.countedTokens = .ok grammar ∧
    let setting : Setting Unit := { grammar, listener := treeBuilder }
    let cut : Setting Unit := { setting with limits := ⟨some 4, some 1, some 2⟩ }
    let used : Parser Unit := (parse cut (.ofSource (.ofString "aab") ())).1
    used.buffer ≠ [] ∧
      (parse setting (used.reset (.ofString "aaab"))).2 = .parsed (some root) ∧
        (parse setting (used.reset (.ofString "aaab"))).1.trace =
          used.trace ++ (parse setting (.ofSource (.ofString "aaab") ())).1.trace := by
  have parses : ((Grammar.build Grammar.countedTokens).toOption.any fun grammar =>
      let setting : Setting Unit := { grammar, listener := treeBuilder }
      let cut : Setting Unit := { setting with limits := ⟨some 4, some 1, some 2⟩ }
      decide ((parse cut (.ofSource (.ofString "aab") ())).1.buffer ≠ []) &&
        (parse setting (.ofSource (.ofString "aaab") ())).2.hasRoot) = true := by
    decide +kernel
  obtain ⟨grammar, built, parses⟩ := exists_ok_of_any parses
  obtain ⟨left, parsed⟩ := Bool.and_eq_true_iff.mp parses
  let cut : Setting Unit := { grammar, listener := treeBuilder, limits := ⟨some 4, some 1, some 2⟩ }
  have reachable : Reachable grammar (parse cut (.ofSource (.ofString "aab") ())).1 :=
    .parsed (.fresh _ _) rfl
  obtain ⟨outcome, _, _, trace⟩ := @parse_reset Unit grammar _ _ built reachable
    { grammar, listener := treeBuilder } rfl (.ofString "aaab")
  obtain ⟨root, fresh⟩ := Outcome.exists_root parsed
  exact ⟨grammar, root, built, of_decide_eq_true left, outcome.trans fresh, trace⟩

end Parser

end StrongLL
