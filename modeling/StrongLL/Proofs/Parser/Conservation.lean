import StrongLL.Proofs.Parser.Thrift

/-!
# No token is lost

A token that a scanner gives goes to the back of the buffer, and from its front it is
consumed or skipped. So at every moment the tokens that were taken and those that are
buffered are the ones that were given, also between the parses of one parser, however they
ended. Only a reset drops what is buffered.
-/

namespace StrongLL

namespace Scanner

/-- The token that is given with an answer, if any. -/
def given : Except Diagnostic (Option Token) → List Token
  | .ok (some token) => [token]
  | .ok none => []
  | .error _ => []

/-- A scanner that was asked for a token a number of times, and what it gave. -/
def asked (vocabulary : Vocabulary) (scanner : Scanner) : (count : Nat) → Scanner × List Token
  | 0 => (scanner, [])
  | count + 1 =>
      let earlier := asked vocabulary scanner count
      let next := earlier.1.next vocabulary
      (next.1, earlier.2 ++ given next.2)

end Scanner

namespace Parser

variable {σ α : Type} {vocabulary : Vocabulary} {start parser : Parser σ} {count : Nat}

def Act.isScan : Act → Bool
  | .scan => true
  | _ => false

/-! ## Acts -/

/-- The tokens that were taken since some state, and behind them those in the buffer, are the
ones that were given to `count` questions. -/
def Conserved (vocabulary : Vocabulary) (start : Parser σ) (count : Nat) (parser : Parser σ) :
    Prop :=
  ∃ since, parser.taken = start.taken ++ since ∧
    start.scanner.asked vocabulary count =
      (parser.scanner, since.map (·.token) ++ parser.buffer)

theorem conserved_start (empty : start.buffer = []) : Conserved vocabulary start 0 start :=
  ⟨[], by simp, by simp [Scanner.asked, empty]⟩

/-- Scanner, buffer and what was taken are all that counts. -/
theorem Conserved.of_eq {other : Parser σ} (conserved : Conserved vocabulary start count parser)
    (scanner : other.scanner = parser.scanner) (buffer : other.buffer = parser.buffer)
    (taken : other.taken = parser.taken) : Conserved vocabulary start count other := by
  unfold Conserved
  rw [scanner, buffer, taken]
  exact conserved

theorem Conserved.note (conserved : Conserved vocabulary start count parser)
    (diagnostic : Diagnostic) : Conserved vocabulary start count (parser.note diagnostic) :=
  conserved.of_eq rfl rfl (reported_note diagnostic parser.recovery).taken

theorem Conserved.stumble (conserved : Conserved vocabulary start count parser)
    (diagnostic : Diagnostic) : Conserved vocabulary start count (stumble diagnostic parser) :=
  conserved.of_eq rfl rfl (taken_stumble diagnostic parser)

theorem Conserved.heed (conserved : Conserved vocabulary start count parser) (listener : σ)
    (answer : Except Diagnostic α) :
    Conserved vocabulary start count (heed answer { parser with listener }) := by
  have told : Conserved vocabulary start count { parser with listener } :=
    conserved.of_eq rfl rfl rfl
  cases answer with
  | ok value => exact told
  | error refusal => exact told.note refusal

/-- What is recorded without taking a token changes nothing. -/
theorem Conserved.push (conserved : Conserved vocabulary start count parser) (event : TraceEvent)
    (silent : event.taken? = none) :
    Conserved vocabulary start count { parser with trace := parser.trace.push event } :=
  conserved.of_eq rfl rfl (by rw [taken_push, silent, Option.toList_none, List.append_nil])

/-- A token is taken off the front of the buffer. -/
theorem Conserved.take (conserved : Conserved vocabulary start count parser) (item : Taken)
    (event : TraceEvent) (takes : event.taken? = some item) {rest : List Token}
    (buffered : parser.buffer = item.token :: rest) :
    Conserved vocabulary start count
      { parser with buffer := parser.buffer.tail, trace := parser.trace.push event } := by
  obtain ⟨since, taken, asked⟩ := conserved
  refine ⟨since ++ [item], ?_, ?_⟩
  · have pushed := @taken_push σ parser event
    rw [takes, Option.toList_some, taken, List.append_assoc] at pushed
    exact pushed
  · rw [asked, buffered]
    simp

/-- A question is one more, and the token that is given goes to the back of the buffer. -/
theorem Conserved.scanned (conserved : Conserved vocabulary start count parser) :
    Conserved vocabulary start (count + 1) (scanned vocabulary parser) := by
  obtain ⟨since, taken, asked⟩ := conserved
  have one : start.scanner.asked vocabulary (count + 1) =
      ((parser.scanner.next vocabulary).1,
        (since.map (·.token) ++ parser.buffer) ++
          Scanner.given (parser.scanner.next vocabulary).2) := by
    simp only [Scanner.asked, asked]
  unfold Parser.scanned
  generalize parser.scanner.next vocabulary = next at one ⊢
  obtain ⟨scanner, answer⟩ := next
  match answer with
  | .ok (some token) => exact ⟨since, taken, by rw [one, List.append_assoc]; rfl⟩
  | .ok none => exact ⟨since, taken, by rw [one, Scanner.given, List.append_nil]⟩
  | .error diagnostic =>
      have read : Conserved vocabulary start (count + 1) { parser with scanner } :=
        ⟨since, taken, by rw [one, Scanner.given, List.append_nil]⟩
      exact read.stumble diagnostic

/-- Each act moves a token along, or none. -/
theorem Conserved.act {setting : Setting σ}
    (conserved : Conserved setting.grammar.vocabulary start count parser) {act : Act}
    (allowed : act.Allowed setting.limits parser) :
    Conserved setting.grammar.vocabulary start (count + [act].countP Act.isScan)
      (act.apply setting parser) := by
  cases act with
  | scan => exact conserved.scanned
  | enter node => exact conserved.heed _ _
  | exit node => exact conserved.heed _ _
  | child parent node => exact conserved.heed _ _
  | mismatch diagnostic => exact conserved.stumble diagnostic
  | fail fault => exact conserved.note _
  | consume token =>
      obtain ⟨⟨rest, buffered⟩, _⟩ := allowed
      have taken := conserved.take (.consumed token) (.consume token) rfl buffered
      exact taken.of_eq rfl rfl rfl
  | skip token =>
      obtain ⟨⟨rest, buffered⟩, _⟩ := allowed
      have taken := conserved.take (.skipped token) (.skip token) rfl buffered
      exact taken.of_eq rfl rfl rfl
  | openRule rule => exact (conserved.push (.enter rule) rfl).of_eq rfl rfl rfl
  | closeRule rule => exact (conserved.push (.exit rule) rfl).of_eq rfl rfl rfl
  | decide event =>
      obtain ⟨rule, index, depth, rfl⟩ | ⟨rule, copies, again, rfl⟩ := allowed
      · exact conserved.push _ rfl
      · exact conserved.push _ rfl

/-- Along a row of acts nothing is lost. -/
theorem Run.conserved {setting : Setting σ} {before after : Parser σ} {acts : List Act}
    (run : Run setting before acts after)
    (conserved : Conserved setting.grammar.vocabulary start count before) :
    ∀ part, part <+: acts →
      Conserved setting.grammar.vocabulary start (count + part.countP Act.isScan)
        (performed setting before part) := by
  induction run generalizing count with
  | done parser =>
      intro part isPart
      obtain rfl := List.prefix_nil.mp isPart
      exact conserved
  | @act before _ first _ allowed _ ih =>
      intro part isPart
      cases part with
      | nil => exact conserved
      | cons act part =>
          obtain ⟨rfl, shorter⟩ := List.cons_prefix_cons.mp isPart
          have later := ih (conserved.act allowed) part shorter
          rw [Nat.add_assoc, ← List.countP_append] at later
          exact later

/-! ## The life of a parser -/

/-- What becomes of a parser by parsing again and again. Limits may change from parse to
parse, and the state of the listener at any time between two of them. -/
inductive Lives (grammar : Grammar) (start : Parser σ) : Parser σ → Prop where
  | begun : Lives grammar start start
  | parsed {parser : Parser σ} (before : Lives grammar start parser) {setting : Setting σ}
      (same : setting.grammar = grammar) : Lives grammar start (parse setting parser).1
  | handled {parser : Parser σ} (before : Lives grammar start parser) (listener : σ) :
      Lives grammar start { parser with listener }

section

variable {declaration : Ebnf.Declaration} {grammar : Grammar}

/-- No decision of a grammar looks further ahead than is allowed for. -/
theorem shallow_of_build (built : Grammar.build declaration = .ok grammar) (id : RuleId)
    (found : ResolvedRule) (lookup : grammar.rule? id = some found) :
    0 < grammar.maxLookAhead ∧ RuleFits (Shallow grammar.maxLookAhead) found := by
  have from' := Grammar.builtFrom_of_build built
  have member := (Grammar.mem_of_rule? lookup).1
  obtain ⟨positive, _, _, _, _, _, _, _, depth⟩ := Grammar.build_eq_ok.mp built
  rw [depth]
  refine ⟨Nat.pos_of_ne_zero positive, fun decision made => ?_, fun row chosen element inside => ?_⟩
  · exact (from'.decides (.choice member made)).2
  · intro decision made
    obtain ⟨front, rest, rfl⟩ := List.append_of_mem inside
    exact (from'.decides (.loop member chosen made)).2

/-- A parse, moment by moment -/
theorem conserved_parse (built : Grammar.build declaration = .ok grammar) {setting : Setting σ}
    (same : setting.grammar = grammar) (conserved : Conserved grammar.vocabulary start count parser)
    (room : parser.buffer.length ≤ grammar.maxLookAhead) :
    ∃ acts last, Run setting parser.prepare acts last ∧
      (parse setting parser).1 = { last with log := [] } ∧
        ∀ part, part <+: acts →
          let now := performed setting parser.prepare part
          Conserved grammar.vocabulary start (count + part.countP Act.isScan) now ∧
            now.buffer.length ≤ grammar.maxLookAhead := by
  subst same
  obtain ⟨positive, _, _, _, _, _, _, _, depth⟩ := Grammar.build_eq_ok.mp built
  have looks : 0 < setting.grammar.maxLookAhead := by
    rw [depth]
    exact Nat.pos_of_ne_zero positive
  obtain ⟨acts, last, run, ended, bounded⟩ := thrifty_parse looks
    (fun id found lookup => (shallow_of_build built id found lookup).2) parser room
  have prepared : Conserved setting.grammar.vocabulary start count parser.prepare :=
    conserved.of_eq rfl rfl rfl
  exact ⟨acts, last, run, ended, fun part isPart =>
    ⟨run.conserved prepared part isPart, bounded part isPart⟩⟩

theorem Lives.conserved (built : Grammar.build declaration = .ok grammar)
    (empty : start.buffer = []) (lives : Lives grammar start parser) :
    (∃ count, Conserved grammar.vocabulary start count parser) ∧
      parser.buffer.length ≤ grammar.maxLookAhead := by
  induction lives with
  | begun =>
      exact ⟨⟨0, conserved_start empty⟩, by simp [empty]⟩
  | @parsed parser before setting same ih =>
      obtain ⟨⟨count, conserved⟩, room⟩ := ih
      obtain ⟨acts, last, run, ended, always⟩ := conserved_parse built same conserved room
      obtain ⟨still, left⟩ := always acts (List.prefix_refl acts)
      rw [← run.eq_performed] at still left
      rw [ended]
      exact ⟨⟨_, still.of_eq rfl rfl rfl⟩, left⟩
  | handled before listener ih =>
      obtain ⟨⟨count, conserved⟩, room⟩ := ih
      exact ⟨⟨count, conserved.of_eq rfl rfl rfl⟩, room⟩

/-- As long as a parser is not reset, at each moment of each of its parses the tokens that it
took, and behind them those in its buffer, are the tokens that its scanner has given so far,
in their order and each of them once. The buffer never holds more tokens than decisions may
look ahead. -/
theorem parse_conserves (built : Grammar.build declaration = .ok grammar)
    (empty : start.buffer = []) (lives : Lives grammar start parser) {setting : Setting σ}
    (same : setting.grammar = grammar) :
    ∃ earlier acts last, Run setting parser.prepare acts last ∧
      (parse setting parser).1 = { last with log := [] } ∧
        ∀ part, part <+: acts →
          let now := performed setting parser.prepare part
          (∃ since, now.taken = start.taken ++ since ∧
            start.scanner.asked grammar.vocabulary (earlier + part.countP Act.isScan) =
              (now.scanner, since.map (·.token) ++ now.buffer)) ∧
          now.buffer.length ≤ grammar.maxLookAhead := by
  obtain ⟨⟨count, conserved⟩, room⟩ := lives.conserved built empty
  exact ⟨count, conserved_parse built same conserved room⟩

/-- A first parse of `"aab"` as `"a"{2,3} "b"` may take one token only, and leaves another one
in the buffer. A second parse takes the rest, and at its end all three tokens are taken. -/
theorem countedTokens_conserved : ∃ grammar acts last earlier,
    Grammar.build Grammar.countedTokens = .ok grammar ∧
      let setting : Setting Unit := { grammar, listener := treeBuilder }
      let cut : Setting Unit := { setting with limits := ⟨some 4, some 1, some 2⟩ }
      let start : Parser Unit := .ofSource (.ofString "aab") ()
      let parser := (parse cut start).1
      parser.buffer ≠ [] ∧ (parse setting parser).1.taken.length = 3 ∧
        Run setting parser.prepare acts last ∧
          ∀ part, part <+: acts →
            let now := performed setting parser.prepare part
            (∃ since, now.taken = start.taken ++ since ∧
              start.scanner.asked grammar.vocabulary (earlier + part.countP Act.isScan) =
                (now.scanner, since.map (·.token) ++ now.buffer)) ∧
            now.buffer.length ≤ grammar.maxLookAhead := by
  have parses : ((Grammar.build Grammar.countedTokens).toOption.any fun grammar =>
      let setting : Setting Unit := { grammar, listener := treeBuilder }
      let cut : Setting Unit := { setting with limits := ⟨some 4, some 1, some 2⟩ }
      let parser := (parse cut (.ofSource (.ofString "aab") ())).1
      decide (parser.buffer ≠ [] ∧ (parse setting parser).1.taken.length = 3)) = true := by
    decide +kernel
  obtain ⟨grammar, built, parses⟩ := exists_ok_of_any parses
  obtain ⟨left, all⟩ := of_decide_eq_true parses
  let cut : Setting Unit := { grammar, listener := treeBuilder, limits := ⟨some 4, some 1, some 2⟩ }
  have lives : Lives grammar (.ofSource (.ofString "aab") ())
      (parse cut (.ofSource (.ofString "aab") ())).1 := .parsed .begun rfl
  obtain ⟨earlier, acts, last, run, _, always⟩ := @parse_conserves Unit _ _ _ grammar built rfl
    lives { grammar, listener := treeBuilder } rfl
  exact ⟨grammar, acts, last, earlier, built, left, all, run, always⟩

end

end Parser

end StrongLL
