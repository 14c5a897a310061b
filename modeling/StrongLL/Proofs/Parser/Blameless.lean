import StrongLL.Proofs.Closed
import StrongLL.Proofs.Parser.Limits
import StrongLL.Proofs.Parser.Mismatch

/-!
# Parsers that are not to blame

With a grammar that is built a parser never logs a fault of its own, except that a limit was
reached: the productions, alternatives, decisions and patterns that it relies on are there, and
it takes no token that it has not looked at.
-/

namespace StrongLL

/-- A diagnostic that blames the parser for nothing but its limits. -/
def Diagnostic.Blameless (diagnostic : Diagnostic) : Prop :=
  ∀ fault, diagnostic.problem = .internal fault → fault.IsLimit

theorem Diagnostic.OfInput.blameless {diagnostic : Diagnostic} (ofInput : diagnostic.OfInput) :
    diagnostic.Blameless :=
  fun fault same => absurd same (ofInput fault)

/-- A listener may refuse nodes, but it does not blame the parser. -/
structure Listener.Modest {σ : Type} (listener : Listener σ) : Prop where
  enter : ∀ node state refusal, (listener.enter node state).2 = .error refusal → refusal.OfInput
  exit : ∀ node state refusal, (listener.exit node state).2 = .error refusal → refusal.OfInput
  child : ∀ parent node state refusal,
    (listener.child parent node state).2.2 = .error refusal → refusal.OfInput

theorem treeBuilder_modest : treeBuilder.Modest :=
  ⟨fun _ _ _ => nofun, fun _ _ _ => nofun, fun _ _ _ _ => nofun⟩

namespace Parser

open Munch

variable {σ α β : Type} {patterns : List Pattern} {caseInsensitive : Bool} {setting : Setting σ}
  {before middle after : Parser σ} {diagnostic : Diagnostic}

/-! ## What does not fit -/

theorem ofInput_prematureEnd (parser : Parser σ) : parser.prematureEnd.OfInput :=
  fun _ => nofun

theorem ofInput_unexpectedToken (found : String) (expected : List String) (position : Position) :
    (Diagnostic.located (.unexpectedToken found expected) position).OfInput :=
  fun _ => nofun

theorem ofInput_unexpected (parser : Parser σ) (index : Nat) (expected : List String) :
    (parser.unexpected index expected).OfInput := by
  unfold unexpected
  split
  · exact ofInput_unexpectedToken _ _ _
  · exact ofInput_prematureEnd parser

theorem ofInput_mismatch (vocabulary : Vocabulary) (decision : Decision) (input : Terminals)
    (parser : Parser σ) : (parser.mismatch vocabulary decision input).OfInput := by
  unfold mismatch
  dsimp only
  split
  · exact ofInput_unexpected parser _ _
  · exact ofInput_prematureEnd parser
  · exact ofInput_prematureEnd parser

/-! ## Parsers without blame -/

/-- A parser in the middle of its input, with a log that blames it for nothing but its limits. -/
structure Intact (patterns : List Pattern) (parser : Parser σ) : Prop where
  reading : Reading patterns parser
  log : ∀ diagnostic ∈ parser.log, diagnostic.Blameless

theorem mem_log_note {other : Diagnostic} {parser : Parser σ}
    (member : other ∈ (parser.note diagnostic).log) : other ∈ parser.log ∨ other = diagnostic := by
  unfold note at member
  dsimp only at member
  split at member
  · exact .inl member
  · exact (List.mem_append.mp member).imp_right List.mem_singleton.mp

/-- Where nothing is scanned, what counts is what is logged. -/
theorem Intact.unscanned (intact : Intact patterns before) (unscanned : Unscanned before after)
    (logged : ∀ diagnostic ∈ after.log, diagnostic ∈ before.log ∨ diagnostic.Blameless) :
    Intact patterns after where
  reading := intact.reading.unscanned unscanned
  log diagnostic member := (logged diagnostic member).elim (intact.log diagnostic) id

theorem Intact.quiet (intact : Intact patterns before) (unscanned : Unscanned before after)
    (log : after.log = before.log) : Intact patterns after :=
  intact.unscanned unscanned fun _ member => .inl (log ▸ member)

theorem Intact.note (intact : Intact patterns before) (blameless : diagnostic.Blameless) :
    Intact patterns (before.note diagnostic) := by
  apply intact.unscanned (reported_note diagnostic before.recovery).unscanned
  intro other member
  cases mem_log_note member with
  | inl earlier => exact .inl earlier
  | inr same =>
      subst same
      exact .inr blameless

theorem Intact.stumble (intact : Intact patterns before) (blameless : diagnostic.Blameless) :
    Intact patterns (stumble diagnostic before) :=
  (intact.note blameless).quiet ⟨rfl, rfl, List.suffix_refl _⟩ rfl

theorem Intact.limit {fault : Fault} (intact : Intact patterns before) (isLimit : fault.IsLimit) :
    Intact patterns ((Act.fail fault).apply setting before) :=
  intact.note fun _ same => Problem.internal.inj same ▸ isLimit

theorem Intact.heed {answer : Except Diagnostic α} (intact : Intact patterns before)
    (modest : ∀ refusal, answer = .error refusal → refusal.OfInput) (listener : σ) :
    Intact patterns (heed answer { before with listener }) := by
  have told : Intact patterns { before with listener } :=
    intact.quiet ⟨rfl, rfl, List.suffix_refl _⟩ rfl
  cases answer with
  | ok value => exact told
  | error refusal => exact told.note (modest refusal rfl).blameless

/-- A scan finds nothing wrong but with the input. -/
theorem Intact.scanned
    (compiled : Vocabulary.ofPatterns patterns caseInsensitive = .ok setting.grammar.vocabulary)
    (intact : Intact patterns before) (more : before.exhausted = false) :
    Intact patterns (scanned setting.grammar.vocabulary before) where
  reading := (intact.reading.scanned compiled more).1
  log := by
    have gives := Scanner.gives_next compiled intact.reading.settled
    unfold Parser.scanned
    generalize before.scanner.next setting.grammar.vocabulary = next at gives ⊢
    obtain ⟨scanner, answer⟩ := next
    match answer with
    | .ok (some token) => exact intact.log
    | .ok none => exact intact.log
    | .error diagnostic =>
        have ofInput : diagnostic.OfInput := gives.answers
        intro other member
        cases mem_log_note member with
        | inl earlier => exact intact.log other earlier
        | inr same => exact same ▸ ofInput.blameless

/-! ## Steps without blame -/

/-- What a step leaves behind that is not to blame: what it could not fit is a matter of the
input. -/
structure Leaves (patterns : List Pattern) (outcome : Except Halt α) (after : Parser σ) : Prop where
  intact : Intact patterns after
  mismatch : ∀ diagnostic, outcome = .error (.mismatch diagnostic) → diagnostic.OfInput

/-- From wherever the parser is not to blame, it is not to blame behind a step. -/
def Safe (patterns : List Pattern) (step : Parse σ α) : Prop :=
  ∀ before, Intact patterns before → Ensures step before (Leaves patterns)

theorem Intact.leaves (intact : Intact patterns after) {outcome : Except Halt α}
    (other : ∀ diagnostic, outcome ≠ .error (.mismatch diagnostic)) :
    Leaves patterns outcome after :=
  ⟨intact, fun diagnostic same => absurd same (other diagnostic)⟩

theorem Leaves.halt {halt : Halt} (leaves : Leaves patterns (.error halt : Except Halt α) after) :
    Leaves patterns (.error halt : Except Halt β) after :=
  ⟨leaves.intact, fun diagnostic same =>
    leaves.mismatch diagnostic (congrArg _ (Except.error.inj same))⟩

theorem safe_pure (value : α) : Safe patterns (pure value : Parse σ α) :=
  fun _ intact => intact.leaves nofun

theorem safe_unfinished : Safe patterns (throw .unfinished : Parse σ α) :=
  fun _ intact => intact.leaves nofun

theorem Safe.bind {step : Parse σ α} {next : α → Parse σ β} (first : Safe patterns step)
    (more : ∀ value, Safe patterns (next value)) : Safe patterns (step >>= next) := by
  intro before intact
  apply (first before intact).bind
  · intro value middle leaves
    exact more value middle leaves.intact
  · intro halt middle leaves
    exact leaves.halt

theorem Safe.rescue {step : Parse σ α} {next : α → Parse σ β} {handler : Diagnostic → Parse σ β}
    (first : Safe patterns step) (more : ∀ value, Safe patterns (next value))
    (handled : ∀ diagnostic, diagnostic.OfInput → Safe patterns (handler diagnostic)) :
    Safe patterns (rescue step next handler) := by
  intro before intact
  unfold Parser.rescue
  rw [ensures_bind, ensures_attempt]
  apply (first before intact).mono
  intro outcome middle leaves
  cases outcome with
  | ok value => exact more value middle leaves.intact
  | error halt =>
      cases halt with
      | mismatch diagnostic =>
          exact handled diagnostic (leaves.mismatch diagnostic rfl) middle leaves.intact
      | abort => exact leaves.halt
      | unfinished => exact leaves.halt

theorem Safe.inside {step : Parse σ α} (inner : Safe patterns step) (rule : RuleId) :
    Safe patterns (inside setting rule step) := by
  intro before intact
  apply ensures_inside_eq
  · intro _
    exact (intact.limit (.inl rfl)).leaves nofun
  · intro _
    have opened : Intact patterns ((Act.openRule rule).apply setting before) :=
      intact.quiet ⟨rfl, rfl, List.suffix_refl _⟩ rfl
    apply (inner _ opened).mono
    intro outcome last leaves
    exact ⟨leaves.intact.quiet ⟨rfl, rfl, List.suffix_refl _⟩ rfl, leaves.mismatch⟩

theorem safe_record (event : TraceEvent) : Safe patterns (record event : Parse σ Unit) := by
  intro before intact
  rw [ensures_record]
  apply Intact.leaves
  · exact intact.quiet ⟨rfl, rfl, List.suffix_refl _⟩ rfl
  · exact fun _ => nofun

theorem safe_mismatch {mismatch : Parser σ → Diagnostic}
    (ofInput : ∀ parser, (mismatch parser).OfInput) :
    Safe patterns (do throw (.mismatch (mismatch (← get))) : Parse σ α) := by
  intro before intact
  refine ⟨intact, fun diagnostic same => ?_⟩
  obtain rfl := Halt.mismatch.inj (Except.error.inj same)
  exact ofInput before

theorem safe_report (ofInput : diagnostic.OfInput) (recovering : Bool) :
    Safe patterns (report setting diagnostic recovering) := by
  intro before intact
  apply (ensures_report_eq diagnostic recovering).mono
  rintro outcome after ⟨ended, rfl⟩
  have still : Intact patterns
      (if recovering then stumble diagnostic before else before.note diagnostic) := by
    cases recovering with
    | true => exact intact.stumble ofInput.blameless
    | false => exact intact.note ofInput.blameless
  cases ended with
  | inl answered => exact still.leaves (answered ▸ nofun)
  | inr aborted => exact still.leaves (aborted ▸ nofun)

/-! ## The listener -/

theorem safe_tell {call : σ → σ × Except Diagnostic α} (otherwise : α)
    (modest : ∀ state refusal, (call state).2 = .error refusal → refusal.OfInput) :
    Safe patterns (tell setting call otherwise) := by
  intro before intact
  apply (ensures_tell_eq call otherwise).mono
  rintro outcome after ⟨rfl, answers⟩
  refine ⟨intact.heed (modest before.listener) _, ?_⟩
  rintro diagnostic rfl
  unfold Answers at answers
  split at answers
  · cases answers
  · cases answers with
    | inl never => cases never
    | inr never => cases never

section

variable (modest : setting.listener.Modest)
include modest

theorem safe_enter (node : Node) : Safe patterns (enter setting node) :=
  safe_tell () (modest.enter node)

theorem safe_exit (node : Node) : Safe patterns (exit setting node) :=
  safe_tell none (modest.exit node)

theorem safe_attach (parent : Branch) (kept : Option Node) :
    Safe patterns (attach setting parent kept) := by
  cases kept with
  | none => exact safe_pure parent
  | some node =>
      intro before intact
      apply (ensures_attach_eq parent node).mono
      rintro outcome after ⟨rfl, ended⟩
      refine ⟨intact.heed (modest.child parent node before.listener) _, ?_⟩
      rintro diagnostic rfl
      cases ended with
      | inl never => cases never
      | inr never => cases never.1

end

/-! ## Tokens -/

theorem safe_of_reads {step : Parse σ α} {vocabulary : Vocabulary}
    (keeps : ∀ before, Intact patterns before →
      Ensures step before fun _ after => Intact patterns after)
    (reads : ∀ before, ∃ value, Ensures step before (Reads vocabulary value before)) :
    Safe patterns step := by
  intro before intact
  obtain ⟨value, reads⟩ := reads before
  apply ((keeps before intact).and reads).mono
  rintro outcome after ⟨still, reads⟩
  refine ⟨still, fun diagnostic same => ?_⟩
  cases (reads.halts _ same).1

theorem safe_spend : Safe patterns (spend setting) := by
  intro before intact
  apply ensures_spend_eq.mono
  rintro outcome after (⟨rfl, rfl, _⟩ | ⟨rfl, rfl, _⟩)
  · apply Intact.leaves
    · exact intact.quiet ⟨rfl, rfl, List.suffix_refl _⟩ rfl
    · exact fun _ => nofun
  · exact (intact.limit (.inr rfl)).leaves nofun

/-- What was looked at can be taken. -/
theorem leaves_consume (intact : Intact patterns before) {token : Token} {rest : List Token}
    (buffered : before.buffer = token :: rest) :
    Ensures (consume setting) before (Leaves patterns) := by
  apply (ensures_consume_eq buffered).mono
  rintro outcome after (⟨rfl, rfl, _⟩ | ⟨rfl, rfl, _⟩)
  · apply Intact.leaves
    · exact intact.quiet (Act.unscanned _ nofun) rfl
    · exact fun _ => nofun
  · exact (intact.limit (.inr rfl)).leaves nofun

section

variable
  (compiled : Vocabulary.ofPatterns patterns caseInsensitive = .ok setting.grammar.vocabulary)
include compiled

theorem safe_peek (index : Nat) : Safe patterns (peek setting index) := by
  apply safe_of_reads
  · exact fun before intact =>
      ensures_peek_keeps (fun _ more still => still.scanned compiled more) index intact
  · exact fun before => ⟨_, (ensures_peek index).mono fun _ _ reads => reads.1⟩

theorem safe_lookAhead (depth index : Nat) : Safe patterns (lookAhead setting depth index) := by
  apply safe_of_reads
  · exact fun before intact =>
      ensures_lookAhead_keeps (fun _ more still => still.scanned compiled more) depth index intact
  · exact fun before => ⟨_, ensures_lookAhead depth index⟩

theorem safe_skip : Safe patterns (skip setting) := by
  apply (safe_peek compiled 0).bind
  intro found
  cases found with
  | none => exact safe_pure false
  | some token =>
      apply safe_spend.bind
      intro _ before intact
      simp only [ensures_bind, ensures_modify, ensures_record]
      apply Intact.leaves
      · exact intact.quiet ⟨rfl, rfl, List.tail_suffix _⟩ rfl
      · exact fun _ => nofun

theorem safe_recover (ofInput : diagnostic.OfInput) :
    Safe patterns (recover setting diagnostic) := by
  apply (safe_report ofInput true).bind
  intro _
  apply (safe_skip compiled).bind
  intro skipped
  cases skipped with
  | true => exact safe_pure ()
  | false => exact fun _ intact => intact.leaves nofun

theorem safe_checkEnd : Safe patterns (checkEnd setting) := by
  apply (safe_peek compiled 0).bind
  intro found
  cases found with
  | none => exact safe_pure ()
  | some token => exact safe_report (ofInput_unexpectedToken _ _ _) true

end

/-! ## Productions -/

section

variable
  (compiled : Vocabulary.ofPatterns patterns caseInsensitive = .ok setting.grammar.vocabulary)
include compiled

theorem safe_token (modest : setting.listener.Modest) (id : TokenId) (parent : Branch) :
    Safe patterns (token setting id parent) := by
  intro before intact
  unfold token
  apply ((safe_peek compiled 0 before intact).and (ensures_peek 0)).bind
  · rintro found middle ⟨leaves, _, buffered⟩
    have still := leaves.intact
    cases found with
    | none => exact safe_mismatch ofInput_prematureEnd middle still
    | some next =>
        dsimp only
        split
        · exact safe_mismatch (ofInput_unexpected · 0 _) middle still
        · obtain ⟨rest, shape⟩ := exists_cons_of_getElem?_zero (buffered _ rfl).1
          apply (leaves_consume still shape).bind
          · intro token consumed leaves
            have leaf (node : Node) : Safe patterns (do
                enter setting node
                attach setting parent (← exit setting node)) :=
              (safe_enter modest node).bind fun _ =>
                (safe_exit modest node).bind (safe_attach modest parent)
            exact leaf _ consumed leaves.intact
          · intro halt consumed leaves
            exact leaves.halt
  · rintro halt middle ⟨leaves, _⟩
    exact leaves.halt

/-- A choice is one of the alternatives. -/
theorem leaves_choose {found : ResolvedRule} (closed : found.Closed setting.grammar)
    (intact : Intact patterns before) : Ensures (choose setting found) before fun outcome after =>
      Leaves patterns outcome after ∧
        ∀ choice, outcome = .ok choice → choice.1 < found.alternatives.length := by
  unfold choose
  cases made : found.decision with
  | none =>
      refine ⟨intact.leaves nofun, fun choice same => ?_⟩
      obtain rfl := Except.ok.inj same
      exact closed.nonempty
  | some decision =>
      apply (safe_lookAhead compiled decision.depth 0 before intact).bind
      · intro input middle leaves
        cases selected : decision.select input with
        | none =>
            refine ⟨?_, nofun⟩
            exact safe_mismatch (ofInput_mismatch _ decision input) middle leaves.intact
        | some index =>
            refine ⟨leaves.intact.leaves nofun, fun choice same => ?_⟩
            obtain rfl := Except.ok.inj same
            exact (closed.splits decision made).picks input index selected
      · intro halt middle leaves
        exact ⟨leaves.halt, nofun⟩

theorem safe_wantsMore (element : ResolvedElement) (count : Nat) :
    Safe patterns (wantsMore setting element count) := by
  have ends (again : Bool) :
      Safe patterns (recordLoop element.symbol count again : Parse σ Bool) := by
    cases element.symbol with
    | token id => exact safe_pure again
    | rule id => exact (safe_record _).bind fun _ => safe_pure again
  unfold wantsMore
  split
  · exact safe_pure false
  · split
    · exact safe_pure true
    · cases element.decision with
      | none => exact (safe_pure false).bind ends
      | some decision =>
          apply (safe_lookAhead compiled decision.depth 0).bind
          exact fun _ => (safe_pure _).bind ends

end

/-- What holds of all calls with some fuel, for what is there. -/
structure SafeAt (patterns : List Pattern) (setting : Setting σ) (fuel : Nat) : Prop where
  rule : ∀ id, (∃ found, setting.grammar.rule? id = some found) →
    Safe patterns (rule setting fuel id)
  alternatives : ∀ found parent, found.Closed setting.grammar →
    Safe patterns (alternatives setting fuel found parent)
  elements : ∀ row parent, (∀ element ∈ row, element.Closed setting.grammar) →
    Safe patterns (elements setting fuel row parent)
  copies : ∀ element count parent, element.Closed setting.grammar →
    Safe patterns (copies setting fuel element count parent)
  symbol : ∀ target parent,
    (∀ id, target = .rule id → ∃ found, setting.grammar.rule? id = some found) →
      Safe patterns (symbol setting fuel target parent)

section

variable
  (compiled : Vocabulary.ofPatterns patterns caseInsensitive = .ok setting.grammar.vocabulary)
  (closed : setting.grammar.Closed) (modest : setting.listener.Modest) {fuel : Nat}
  (safe : SafeAt patterns setting fuel)

section

include closed modest safe

theorem safe_rule (id : RuleId) (known : ∃ found, setting.grammar.rule? id = some found) :
    Safe patterns (rule setting (fuel + 1) id) := by
  obtain ⟨found, lookup⟩ := known
  have foundClosed := closed.rules found (Grammar.mem_of_rule? lookup).1
  unfold rule
  rw [lookup]
  apply (safe_enter modest _).bind
  intro _
  apply (safe.alternatives found _ foundClosed).bind
  exact fun branch => safe_exit modest branch.toNode

end

section

include compiled safe

theorem safe_alternatives (found : ResolvedRule) (parent : Branch)
    (foundClosed : found.Closed setting.grammar) :
    Safe patterns (alternatives setting (fuel + 1) found parent) := by
  unfold alternatives
  apply Safe.inside
  intro before intact
  apply (leaves_choose compiled foundClosed intact).bind
  · rintro ⟨index, depth⟩ middle ⟨leaves, chosen⟩
    have present := List.getElem?_eq_getElem (chosen _ rfl)
    dsimp only
    rw [present]
    have goesOn := (safe_record (.alternative found.id index depth)).bind fun _ =>
      safe.elements _ parent (foundClosed.elements _ (List.mem_of_getElem? present))
    exact goesOn middle leaves.intact
  · rintro halt middle ⟨leaves, _⟩
    exact leaves.halt

theorem safe_copies (element : ResolvedElement) (count : Nat) (parent : Branch)
    (elementClosed : element.Closed setting.grammar) :
    Safe patterns (copies setting (fuel + 1) element count parent) := by
  rw [copies_succ]
  apply (safe_wantsMore compiled element count).bind
  intro wanted
  cases wanted with
  | false => exact safe_pure parent
  | true =>
      apply (safe.symbol element.symbol parent elementClosed.rule).rescue
      · intro branch
        exact safe.copies element (count + 1) branch elementClosed
      · intro diagnostic ofInput
        apply (safe_recover compiled ofInput).bind
        exact fun _ => safe.copies element count parent elementClosed

end

section

include safe

theorem safe_elements (row : List ResolvedElement) (parent : Branch)
    (rowClosed : ∀ element ∈ row, element.Closed setting.grammar) :
    Safe patterns (elements setting (fuel + 1) row parent) := by
  cases row with
  | nil => exact safe_pure parent
  | cons element rest =>
      obtain ⟨first, others⟩ := List.forall_mem_cons.mp rowClosed
      apply (safe.copies element 0 parent first).bind
      exact fun branch => safe.elements rest branch others

end

include compiled closed modest

theorem safe_symbol (safe : SafeAt patterns setting fuel) (target : Symbol) (parent : Branch)
    (known : ∀ id, target = .rule id → ∃ found, setting.grammar.rule? id = some found) :
    Safe patterns (symbol setting (fuel + 1) target parent) := by
  cases target with
  | token id => exact safe_token compiled modest id parent
  | rule id =>
      obtain ⟨found, lookup⟩ := known id rfl
      unfold symbol
      rw [lookup]
      dsimp only
      split
      · exact safe.alternatives found parent (closed.rules found (Grammar.mem_of_rule? lookup).1)
      · exact (safe.rule id ⟨found, lookup⟩).bind fun kept => safe_attach modest parent kept

/-- With a closed grammar and a modest listener all calls are safe, whatever the fuel. -/
theorem safeAt (fuel : Nat) : SafeAt patterns setting fuel := by
  induction fuel with
  | zero =>
      constructor
      · exact fun _ _ => safe_unfinished
      · exact fun _ _ _ => safe_unfinished
      · exact fun _ _ _ => safe_unfinished
      · exact fun _ _ _ _ => safe_unfinished
      · exact fun _ _ _ => safe_unfinished
  | succ fuel ih =>
      exact ⟨safe_rule closed modest ih, safe_alternatives compiled ih, safe_elements ih,
        safe_copies compiled ih, safe_symbol compiled closed modest ih⟩

theorem safe_root (steps fuel : Nat) : Safe patterns (root setting steps fuel) := by
  induction fuel with
  | zero => exact safe_unfinished
  | succ fuel ih =>
      rw [root_succ]
      apply ((safeAt compiled closed modest steps).rule setting.grammar.start closed.start).rescue
      · intro node before intact
        rw [ensures_bind, ensures_discard]
        apply (safe_checkEnd compiled before intact).mono
        intro _ after leaves
        exact leaves.intact.leaves nofun
      · intro diagnostic ofInput
        exact (safe_recover compiled ofInput).bind fun _ => ih

end

/-! ## Whole parses -/

/-- What holds of a parser that is not to blame: all tokens that it has or is still to be given
have patterns, and its scanner finds nothing wrong but with the input. -/
structure Faultless (grammar : Grammar) (parser : Parser σ) : Prop where
  log : ∀ diagnostic ∈ parser.log, diagnostic.Blameless
  tokens : ∀ token ∈ parser.upcoming grammar.vocabulary,
    ∃ pattern, grammar.vocabulary.find? token.id = some pattern
  scanner : ∀ diagnostic,
    (parser.scanner.next grammar.vocabulary).2 = .error diagnostic → diagnostic.OfInput

/-- How a parse stands to its start production. -/
theorem exists_verdict {parser : Parser σ} {post : Except Halt (Option Node) → Parser σ → Prop}
    (ensures : Ensures (root setting (parser.prepare.stepBound setting.grammar)
      (parser.prepare.tokenBound + 2)) parser.prepare post) :
    ∃ outcome last, post outcome last ∧ parse setting parser = verdict (outcome, last) :=
  ⟨_, _, ensures, rfl⟩

section

variable {declaration : Ebnf.Declaration} {grammar : Grammar} {parser : Parser σ}
  (built : Grammar.build declaration = .ok grammar)
include built

theorem Intact.faultless (intact : Intact declaration.patterns parser) :
    Faultless grammar parser := by
  obtain ⟨_, compiled, _⟩ := Grammar.build_eq_ok.mp built
  have known {token : Token} (given : Given declaration.patterns (.ok token)) :
      ∃ pattern, grammar.vocabulary.find? token.id = some pattern := by
    obtain ⟨pattern, member, same⟩ := given
    rw [← Grammar.patterns_of_ofPatterns compiled] at member
    apply Option.isSome_iff_exists.mp
    exact List.find?_isSome.mpr ⟨pattern, member, by simp [same]⟩
  constructor
  · exact intact.log
  · intro token member
    cases List.mem_append.mp member with
    | inl buffered => exact known (intact.reading.buffered token buffered)
    | inr coming =>
        split at coming
        · cases coming
        · obtain ⟨answer, given, same⟩ := List.mem_filterMap.mp coming
          have isGiven := Scanner.given_outputs compiled intact.reading.settled answer given
          cases answer with
          | ok other => exact known (Option.some.inj same ▸ isGiven)
          | error diagnostic => cases same
  · intro diagnostic failed
    have gives := Scanner.gives_next compiled intact.reading.settled
    rw [failed] at gives
    exact gives.answers

/-- A parse is a row of acts, behind which the parser is not to blame. -/
theorem exists_intact_run (same : setting.grammar = grammar) (modest : setting.listener.Modest)
    (reachable : Reachable grammar parser) : ∃ acts last, Run setting parser.prepare acts last ∧
      Intact declaration.patterns last ∧ (parse setting parser).1 = { last with log := [] } ∧
        (parse setting parser).2.log = last.log := by
  have from' := Grammar.builtFrom_of_build built
  obtain ⟨_, compiled, _⟩ := Grammar.build_eq_ok.mp built
  have reading := reachable.reading built
  have intact : Intact declaration.patterns parser.prepare :=
    ⟨⟨reading.settled, reading.ended, reading.buffered⟩, nofun⟩
  have finished := parse_ne_unfinished from' same parser
  subst same
  have acted := @acted_root σ setting parser.prepare (parser.prepare.stepBound setting.grammar)
    (parser.prepare.tokenBound + 2) (warned_prepare parser)
  have safe := safe_root compiled from'.closed modest
    (parser.prepare.stepBound setting.grammar) (parser.prepare.tokenBound + 2) _ intact
  obtain ⟨outcome, last, ⟨⟨acts, run, _⟩, leaves⟩, ended⟩ := exists_verdict (acted.and safe)
  rw [ended] at finished ⊢
  exact ⟨acts, last, run, leaves.intact, fst_verdict _, log_verdict finished⟩

/-- A listener that keeps all nodes keeps that of the start production. -/
theorem parse_ne_discarded (same : setting.grammar = grammar) (keeps : setting.listener.Keeps)
    (parser : Parser σ) : (parse setting parser).2 ≠ .parsed none := by
  have from' := Grammar.builtFrom_of_build built
  have acted := @acted_root σ setting parser.prepare (parser.prepare.stepBound setting.grammar)
    (parser.prepare.tokenBound + 2) (warned_prepare parser)
  have parsed := root_of_build from' same (parser.prepare.stepBound setting.grammar)
    (parser.prepare.tokenBound + 2) parser.prepare
  have finished := parse_ne_unfinished from' same parser
  obtain ⟨outcome, last, ⟨⟨acts, run, halts, _⟩, parsed⟩, ended⟩ :=
    exists_verdict (acted.and parsed)
  rw [ended] at finished ⊢
  by_cases empty : last.log = []
  · cases outcome with
    | ok kept =>
        obtain ⟨_, _, _, _, isKept, _⟩ := parsed
        simp [verdict, empty, isKept keeps]
    | error halt =>
        obtain rfl := (halts halt rfl).resolve_right (not_not.mpr empty)
        exact absurd rfl finished
  · rw [verdict_logged finished empty]
    intro never
    cases never

theorem parseText_blameless {text : String} {log : Log}
    (failed : parseText grammar text = .failed log) :
    ∀ diagnostic ∈ log, diagnostic.Blameless := by
  unfold parseText at failed
  dsimp only at failed
  split at failed
  · rename_i discarded
    exact absurd discarded (parse_ne_discarded built rfl treeBuilder_keeps _)
  · obtain ⟨acts, last, _, intact, _, logged⟩ := @exists_intact_run Unit
      { grammar, listener := treeBuilder } _ _ _ built rfl treeBuilder_modest
      (.fresh (.ofString text) ())
    rw [failed] at logged
    have same : log = last.log := logged
    rw [same]
    exact intact.log

end

/-- With a grammar that is built, a listener that blames the parser for nothing and any limits, a
parse logs no fault but that a limit was reached. The grammar is closed, a token that was looked
at can be taken unless the limit is reached, and at no moment does the parser have a token
without a pattern, or its scanner find one. Nor is the tree of a text ever lost. -/
theorem parse_blameless {declaration : Ebnf.Declaration} {grammar : Grammar}
    (built : Grammar.build declaration = .ok grammar) {setting : Setting σ}
    (same : setting.grammar = grammar) (modest : setting.listener.Modest) {parser : Parser σ}
    (reachable : Reachable grammar parser) :
    grammar.Closed ∧
      (∀ (before : Parser σ) token, ((peek setting 0).run.run before).1 = .ok (some token) →
        let middle := ((peek setting 0).run.run before).2
        Ensures (consume setting) middle fun outcome after => outcome = .ok token ∨
          (outcome = .error .abort ∧ after = (Act.fail .executionLimit).apply setting middle)) ∧
      (∃ acts last, Run setting parser.prepare acts last ∧
        (parse setting parser).1 = { last with log := [] } ∧
          (parse setting parser).2.log = last.log ∧
            (∀ fault, .fail fault ∈ acts → fault.IsLimit) ∧
              ∀ part, part <+: acts → Faultless grammar (performed setting parser.prepare part)) ∧
      ∀ text log, parseText grammar text = .failed log →
        ∀ diagnostic ∈ log, diagnostic.Blameless := by
  refine ⟨(Grammar.builtFrom_of_build built).closed, ?_, ?_,
    fun text log => parseText_blameless built⟩
  · intro before token peeked middle
    have looked : Ensures (peek setting 0) before _ := ensures_peek 0
    obtain ⟨rest, shape⟩ := exists_cons_of_getElem?_zero (looked.2 (some token) peeked).1
    apply (ensures_consume_eq shape).mono
    rintro outcome after (⟨rfl, _⟩ | ⟨rfl, rfl, _⟩)
    · exact .inl rfl
    · exact .inr ⟨rfl, rfl⟩
  · obtain ⟨acts, last, run, intact, ended, logged⟩ := exists_intact_run built same modest reachable
    refine ⟨acts, last, run, ended, logged, fun fault reported => ?_, fun part isPart => ?_⟩
    · obtain ⟨first, later, rfl⟩ := List.append_of_mem reported
      cases run.split.2 with
      | act _ more =>
          have told := more.log_prefix.subset
          rw [log_fail] at told
          exact intact.log _ (told (List.mem_append_right _ (List.mem_singleton_self _))) fault rfl
    · obtain ⟨later, rfl⟩ := isPart
      obtain ⟨earlier, more⟩ := run.split
      have reading := reachable.reading_run built same earlier
      have part : Intact declaration.patterns (performed setting parser.prepare part) :=
        ⟨reading, fun diagnostic member => intact.log diagnostic (more.log_prefix.subset member)⟩
      exact part.faultless built

/-- The parse of `"aab"` as `"a"{2,3} "b"` where one token may be taken: the one error is that
the limit was reached. -/
theorem countedTokens_blameless : ∃ grammar acts last,
    Grammar.build Grammar.countedTokens = .ok grammar ∧
      let setting : Setting Unit :=
        { grammar, listener := treeBuilder, limits := { execution := some 1 } }
      let fresh : Parser Unit := .ofSource (.ofString "aab") ()
      (parse setting fresh).2.log.map (·.problem) = [.internal .executionLimit] ∧
        Run setting fresh.prepare acts last ∧ (parse setting fresh).2.log = last.log ∧
          Faultless grammar last ∧ grammar.Closed := by
  have parses : ((Grammar.build Grammar.countedTokens).toOption.any fun grammar =>
      let setting : Setting Unit :=
        { grammar, listener := treeBuilder, limits := { execution := some 1 } }
      decide ((parse setting (.ofSource (.ofString "aab") ())).2.log.map (·.problem) =
        [.internal .executionLimit])) = true := by
    decide +kernel
  obtain ⟨grammar, built, parses⟩ := exists_ok_of_any parses
  obtain ⟨closed, _, ⟨acts, last, run, _, logged, _, always⟩, _⟩ := @parse_blameless Unit _ grammar
    built { grammar, listener := treeBuilder, limits := { execution := some 1 } } rfl
    treeBuilder_modest _ (.fresh (.ofString "aab") ())
  have faultless := always acts (List.prefix_refl acts)
  rw [← run.eq_performed] at faultless
  exact ⟨grammar, acts, last, built, of_decide_eq_true parses, run, logged, faultless, closed⟩

end Parser

end StrongLL
