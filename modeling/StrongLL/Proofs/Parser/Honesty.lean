import StrongLL.Proofs.Parser.Steps
import StrongLL.Proofs.Parser.Termination

/-!
# No failure is taken for a success

At every moment of a parse errors are kept back only behind one that is logged. So a parse
that comes back without a log has reported nothing, skipped nothing and met no limit, has
read all of its input, and comes back with what its listener answered last: to the node of
the start production. Every other parse comes back with a log that is not empty.
-/

namespace StrongLL

/-- Whether an event tells of an error or of a token that is lost. -/
def TraceEvent.isTrouble : TraceEvent → Bool
  | .error .. | .skip _ => true
  | _ => false

/-- A branch is what a listener makes of another one where it attaches children. -/
inductive Listener.Fills {σ : Type} (listener : Listener σ) (parent : Branch) : Branch → Prop where
  | nothing : Fills listener parent parent
  | child {branch : Branch} (fills : Fills listener parent branch) (node : Node) (state : σ) :
      Fills listener parent (listener.child branch node state).2.1

theorem Listener.Fills.trans {σ : Type} {listener : Listener σ} {first second third : Branch}
    (left : listener.Fills first second) (right : listener.Fills second third) :
    listener.Fills first third := by
  induction right with
  | nothing => exact left
  | child _ node state ih => exact .child ih node state

namespace Parser

variable {σ α : Type} {setting : Setting σ} {before : Parser σ}

/-! ## Nodes are filled by the listener -/

/-- A step comes back with a branch that the listener filled. -/
def FillsUp (setting : Setting σ) (parent : Branch) (step : Parse σ Branch) : Prop :=
  ∀ before, Ensures step before fun outcome _ =>
    ∀ branch, outcome = .ok branch → setting.listener.Fills parent branch

theorem fillsUp_pure (parent : Branch) : FillsUp setting parent (pure parent) := by
  rintro before branch same
  obtain rfl := Except.ok.inj same
  exact .nothing

theorem fillsUp_halt {parent : Branch} {halt : Halt} :
    FillsUp setting parent (throw halt : Parse σ Branch) :=
  fun _ => nofun

theorem FillsUp.behind {parent : Branch} {step : Parse σ α} {next : α → Parse σ Branch}
    (more : ∀ value, FillsUp setting parent (next value)) :
    FillsUp setting parent (step >>= next) := by
  intro before
  have first : Ensures step before fun _ _ => True := trivial
  exact first.bind (fun value middle _ => more value middle) fun _ _ _ => nofun

theorem fillsUp_fail {parent : Branch} {fault : Fault} :
    FillsUp setting parent (fail fault : Parse σ Branch) :=
  FillsUp.behind fun _ => fillsUp_halt

theorem FillsUp.bind {parent : Branch} {step : Parse σ Branch} {next : Branch → Parse σ Branch}
    (first : FillsUp setting parent step) (more : ∀ branch, FillsUp setting branch (next branch)) :
    FillsUp setting parent (step >>= next) := by
  intro before
  apply (first before).bind
  · intro branch middle filled
    exact (more branch middle).mono fun _ _ further last same =>
      (filled branch rfl).trans (further last same)
  · exact fun _ _ _ => nofun

theorem fillsUp_attach (parent : Branch) (kept : Option Node) :
    FillsUp setting parent (attach setting parent kept) := by
  cases kept with
  | none => exact fillsUp_pure parent
  | some node =>
      intro before
      apply (ensures_attach_eq parent node).mono
      rintro outcome after ⟨_, ended⟩ branch rfl
      obtain same | ⟨never, _⟩ := ended
      · obtain rfl := Except.ok.inj same
        exact .child .nothing node _
      · cases never

theorem fillsUp_token (id : TokenId) (parent : Branch) :
    FillsUp setting parent (token setting id parent) := by
  unfold token
  apply FillsUp.behind
  rintro (none | next)
  · exact FillsUp.behind fun _ => fillsUp_halt
  · dsimp only
    split
    · intro before
      simp only [ensures_bind, ensures_get, ensures_throw]
      exact nofun
    · exact FillsUp.behind fun _ => FillsUp.behind fun _ => FillsUp.behind fun kept =>
        fillsUp_attach parent kept

/-- What holds of all calls with some fuel. -/
structure FillsAt (setting : Setting σ) (fuel : Nat) : Prop where
  alternatives : ∀ found parent, FillsUp setting parent (alternatives setting fuel found parent)
  elements : ∀ row parent, FillsUp setting parent (elements setting fuel row parent)
  copies : ∀ element count parent,
    FillsUp setting parent (copies setting fuel element count parent)
  symbol : ∀ target parent, FillsUp setting parent (symbol setting fuel target parent)

section

variable {fuel : Nat} (fills : FillsAt setting fuel)

include fills

theorem fillsUp_alternatives (found : ResolvedRule) (parent : Branch) :
    FillsUp setting parent (alternatives setting (fuel + 1) found parent) := by
  have chosen : FillsUp setting parent
      (choose setting found >>= chosenRow setting fuel found parent) := by
    apply FillsUp.behind
    intro choice
    unfold chosenRow
    cases found.alternatives[choice.1]? with
    | none => exact fillsUp_fail
    | some row => exact FillsUp.behind fun _ => fills.elements row parent
  rw [alternatives_succ]
  intro before
  apply ensures_inside
  · intro _ after _ branch never
    cases never
  · exact fun middle _ => (chosen middle).mono fun _ _ filled _ _ => filled

theorem fillsUp_elements (row : List ResolvedElement) (parent : Branch) :
    FillsUp setting parent (elements setting (fuel + 1) row parent) := by
  cases row with
  | nil => exact fillsUp_pure parent
  | cons element rest => exact (fills.copies element 0 parent).bind (fills.elements rest)

theorem fillsUp_copies (element : ResolvedElement) (count : Nat) (parent : Branch) :
    FillsUp setting parent (copies setting (fuel + 1) element count parent) := by
  rw [copies_succ]
  apply FillsUp.behind
  intro wanted
  cases wanted with
  | false => exact fillsUp_pure parent
  | true =>
      intro before
      simp only [if_true, rescue, ensures_bind, ensures_attempt]
      apply (fills.symbol element.symbol parent before).mono
      intro outcome middle filled
      cases outcome with
      | ok branch =>
          exact (fills.copies element (count + 1) branch middle).mono fun _ _ further last same =>
            (filled branch rfl).trans (further last same)
      | error halt =>
          cases halt with
          | mismatch diagnostic =>
              have again : FillsUp setting parent (do
                  recover setting diagnostic
                  copies setting fuel element count parent) :=
                FillsUp.behind fun _ => fills.copies element count parent
              exact again middle
          | abort => exact fillsUp_halt middle
          | unfinished => exact fillsUp_halt middle

theorem fillsUp_symbol (target : Symbol) (parent : Branch) :
    FillsUp setting parent (symbol setting (fuel + 1) target parent) := by
  cases target with
  | token id => exact fillsUp_token id parent
  | rule id =>
      unfold symbol
      cases setting.grammar.rule? id with
      | none => exact fillsUp_fail
      | some found =>
          dsimp only
          split
          · exact fills.alternatives found parent
          · exact FillsUp.behind fun kept => fillsUp_attach parent kept

end

theorem fillsAt (fuel : Nat) : FillsAt setting fuel := by
  induction fuel with
  | zero =>
      exact ⟨fun _ _ => fillsUp_halt, fun _ _ => fillsUp_halt, fun _ _ _ => fillsUp_halt,
        fun _ _ => fillsUp_halt⟩
  | succ fuel ih =>
      exact ⟨fillsUp_alternatives ih, fillsUp_elements ih, fillsUp_copies ih, fillsUp_symbol ih⟩

/-! ## The last call -/

/-- The last act of a row was to ask the listener about the node of a production that it
had filled, and this was the answer. -/
def Completes (setting : Setting σ) (id : RuleId) (before : Parser σ) (acts : List Act)
    (kept : Option Node) : Prop :=
  ∃ earlier found branch, acts = earlier ++ [.exit branch.toNode] ∧
    setting.grammar.rule? id = some found ∧
      setting.listener.Fills ⟨id, found.name, []⟩ branch ∧
        (setting.listener.exit branch.toNode
          (performed setting before earlier).listener).2 = .ok kept

/-- The last act of a production is to ask the listener about its node. -/
theorem acted_rule (fuel : Nat) (id : RuleId) (warned : before.Warned) :
    Ensures (rule setting fuel id) before fun outcome after =>
      ∃ acts, Run setting before acts after ∧ (outcome = .error .abort → after.log ≠ []) ∧
        ∀ kept, outcome = .ok kept → after.log = [] → Completes setting id before acts kept := by
  cases fuel with
  | zero =>
      rw [rule, ensures_throw]
      exact ⟨[], .done before, by simp, by simp⟩
  | succ fuel =>
      unfold rule
      cases lookup : setting.grammar.rule? id with
      | none =>
          have allowed : (Act.fail .unknownRule).Allowed setting.limits before := ⟨nofun, nofun⟩
          refine ⟨_, .single allowed, fun _ => @log_fail_ne_nil σ setting before _, ?_⟩
          intro kept never
          cases never
      | some found =>
          apply (actsAs_enter (.branch id found.name []) before warned).bind
          · intro _ entered entering
            have parsing : ActsAs setting anyAct
                (alternatives setting fuel found ⟨id, found.name, []⟩) :=
              (compatible_actsAs.relatedAt fuel).alternatives found _
            apply ((parsing entered (entering.warned warned)).and
              ((fillsAt fuel).alternatives found _ entered)).bind
            · rintro branch filled ⟨acted, fills⟩
              obtain ⟨acts, run, _⟩ := entering.behind acted
              have still : filled.Warned := run.warned warned
              have allowed : (Act.exit branch.toNode).Allowed setting.limits filled := trivial
              apply (ensures_exit_eq branch.toNode).mono
              rintro outcome after ⟨rfl, answers⟩
              refine ⟨acts ++ [.exit branch.toNode], run.append (.single allowed),
                fun aborted => answers.logged still aborted, ?_⟩
              rintro kept rfl empty
              refine ⟨acts, found, branch, rfl, lookup, fills branch rfl, ?_⟩
              rw [← run.eq_performed]
              refine answers.eq_ok ?_ empty
              exact still
            · rintro halt last ⟨acted, _⟩
              obtain ⟨acts, run, _, logged⟩ := entering.behind acted.halt
              exact ⟨acts, run, logged, by simp⟩
          · intro halt last acted
            obtain ⟨acts, run, _, logged⟩ := acted.halt
            exact ⟨acts, run, logged, by simp⟩

/-- Behind the start production the rest of the input is looked at. Without a log there is
none. -/
theorem acted_checkEnd (warned : before.Warned) : Ensures (checkEnd setting) before
    fun outcome after => ∃ acts, Run setting before acts after ∧
      (outcome = .ok () ∨ outcome = .error .abort ∧ after.log ≠ []) ∧
        (after.log = [] → (∀ act ∈ acts, act = .scan) ∧ after.exhausted = true ∧
          after.buffer = []) := by
  unfold checkEnd
  apply ((actsAs_peek 0 before warned).and (ensures_peek 0)).bind
  · rintro found middle ⟨⟨acts, run, scans, _⟩, _, buffered⟩
    obtain ⟨first, ended⟩ := buffered found rfl
    cases found with
    | none =>
        refine ⟨acts, run, .inl rfl, fun _ => ⟨scans, ended rfl, ?_⟩⟩
        exact List.length_eq_zero_iff.mp (Nat.le_zero.mp (List.getElem?_eq_none_iff.mp first))
    | some token =>
        apply (ensures_report_eq _ true).mono
        rintro outcome after ⟨ended, rfl⟩
        have allowed (diagnostic : Diagnostic) :
            (Act.mismatch diagnostic).Allowed setting.limits middle := trivial
        have logged (diagnostic : Diagnostic) : (stumble diagnostic middle).log ≠ [] :=
          log_stumble diagnostic (run.warned warned)
        exact ⟨_, run.append (.single (allowed _)), ended.imp_right fun aborted =>
          ⟨aborted, logged _⟩, fun empty => absurd empty (logged _)⟩
  · rintro halt after ⟨⟨acts, run, _⟩, reads, _⟩
    obtain ⟨rfl, logged⟩ := reads.halts halt rfl
    exact ⟨acts, run, .inr ⟨rfl, logged warned⟩, fun empty => absurd empty (logged warned)⟩

/-! ## The start production -/

/-- All of the input is read, and the last call was about the node of the start
production. -/
structure Succeeded (setting : Setting σ) (before : Parser σ) (acts : List Act)
    (kept : Option Node) (after : Parser σ) : Prop where
  exhausted : after.exhausted = true
  buffer : after.buffer = []
  last : ∃ first later, acts = first ++ later ∧ (∀ act ∈ later, act = .scan) ∧
    Completes setting setting.grammar.start before first kept

theorem acted_root (steps fuel : Nat) (warned : before.Warned) :
    Ensures (root setting steps fuel) before fun outcome after =>
      ∃ acts, Run setting before acts after ∧
        (∀ halt, outcome = .error halt → halt = .unfinished ∨ after.log ≠ []) ∧
          ∀ kept, outcome = .ok kept → after.log = [] →
            Succeeded setting before acts kept after := by
  induction fuel generalizing before with
  | zero =>
      rw [root, ensures_throw]
      exact ⟨[], .done before, fun halt same => .inl (Except.error.inj same).symm, by simp⟩
  | succ fuel ih =>
      unfold root
      rw [ensures_bind, ensures_attempt]
      apply (acted_rule steps setting.grammar.start warned).mono
      rintro outcome middle ⟨acts, run, aborted, completes⟩
      have still := run.warned warned
      cases outcome with
      | ok kept =>
          dsimp only
          rw [ensures_bind, ensures_discard]
          apply (acted_checkEnd still).mono
          rintro _ after ⟨further, more, _, ended⟩
          refine ⟨acts ++ further, run.append more, by simp, ?_⟩
          intro other same empty
          obtain rfl : kept = other := Except.ok.inj same
          obtain ⟨scans, exhausted, buffer⟩ := ended empty
          have before := List.prefix_nil.mp (empty ▸ more.log_prefix)
          exact ⟨exhausted, buffer, acts, further, rfl, scans, completes kept rfl before⟩
      | error halt =>
          cases halt with
          | mismatch diagnostic =>
              apply ((actsAs_recover diagnostic middle still).and (ensures_recover diagnostic)).bind
              · rintro ⟨⟩ recovered ⟨⟨further, more, _⟩, token, course⟩
                have whole := run.append more
                apply (ih (whole.warned warned)).mono
                rintro outcome after ⟨rest, last, halts, _⟩
                refine ⟨_, whole.append last, halts, fun kept _ empty => ?_⟩
                -- A token was skipped, so something is logged.
                have logged : recovered.log ≠ [] := fun empty =>
                  (course.clean still empty).2 token (List.mem_singleton_self _)
                exact absurd empty (last.logged logged)
              · rintro halt after ⟨⟨further, more, _, logged⟩, rfl⟩
                exact ⟨_, run.append more, fun _ _ => .inr (logged rfl), by simp⟩
          | abort => exact ⟨acts, run, fun _ _ => .inr (aborted rfl), by simp⟩
          | unfinished =>
              exact ⟨acts, run, fun halt same => .inl (Except.error.inj same).symm, by simp⟩

/-! ## Trouble is logged -/

/-- Where there was trouble since some events, something is logged. -/
structure Books.Admits (old : List TraceEvent) (books : Books) : Prop where
  warned : 0 < books.recovery → books.log ≠ []
  since : ∃ events, books.events = old ++ events ∧
    ∀ event ∈ events, event.isTrouble = true → books.log ≠ []

theorem Books.Admits.push {old : List TraceEvent} {books next : Books} {event : TraceEvent}
    (admits : books.Admits old) (grows : books.Grows next)
    (events : next.events = books.events ++ [event])
    (logged : event.isTrouble = true → next.log ≠ []) : next.Admits old := by
  obtain ⟨earlier, since, troubled⟩ := admits.since
  refine ⟨grows.warned admits.warned, earlier ++ [event], ?_, fun other member trouble => ?_⟩
  · rw [events, since, List.append_assoc]
  · rcases List.mem_append.mp member with member | member
    · intro empty
      exact troubled other member trouble (List.prefix_nil.mp (empty ▸ grows.log))
    · obtain rfl := List.mem_singleton.mp member
      exact logged trouble

theorem Books.Admits.turn {old : List TraceEvent} {limits : Limits} {books next : Books}
    (admits : books.Admits old) (turns : books.Turns limits next) : next.Admits old := by
  have grows := turns.grows
  cases turns with
  | keep => exact admits
  | refuse diagnostic =>
      exact admits.push grows rfl fun _ => (grows_note diagnostic books).2 admits.warned
  | stumble diagnostic =>
      exact admits.push grows rfl fun _ => (grows_note diagnostic books).2 admits.warned
  | consume token _ => exact admits.push grows rfl nofun
  | skip token logged _ => exact admits.push grows rfl fun _ => logged
  | openRule rule _ => exact admits.push grows rfl nofun
  | closeRule rule => exact admits.push grows rfl nofun
  | alternative rule index depth => exact admits.push grows rfl nofun
  | loop rule count again => exact admits.push grows rfl nofun

/-- Without a log no error was reported and no token was lost. -/
theorem Run.untroubled {acts : List Act} {after : Parser σ} (run : Run setting before acts after)
    (warned : before.Warned) (empty : after.log = []) :
    ∃ events, after.trace.toList = before.trace.toList ++ events ∧
      ∀ event ∈ events, event.isTrouble = false := by
  have start : before.books.Admits before.trace.toList := ⟨warned, [], by simp [books], by simp⟩
  have admits := run.books_last start fun _ _ admits turns => admits.turn turns
  obtain ⟨events, since, troubled⟩ := admits.since
  exact ⟨events, since, fun event member =>
    Bool.eq_false_iff.mpr fun trouble => troubled event member trouble empty⟩

/-! ## Whole parses -/

/-- What a parse without errors is like. -/
structure Flawless (setting : Setting σ) (before : Parser σ) (acts : List Act)
    (kept : Option Node) (after : Parser σ) : Prop
    extends Succeeded setting before acts kept after where
  unlogged : after.log = []
  untroubled : ∃ events, after.trace.toList = before.trace.toList ++ events ∧
    ∀ event ∈ events, event.isTrouble = false

theorem warned_prepare (parser : Parser σ) : parser.prepare.Warned :=
  fun recovering => absurd recovering (Nat.lt_irrefl 0)

/-- Without a log all that was to come has been taken, and is a sentence. -/
theorem sentence_of_unlogged {declaration : Ebnf.Declaration} {grammar : Grammar}
    (from' : Grammar.BuiltFrom declaration grammar) (same : setting.grammar = grammar)
    {kept : Option Node} {after : Parser σ} (warned : before.Warned) (empty : after.log = [])
    (parsed : RootParsed setting before (.ok kept) after) :
    ∃ tree, Ebnf.IsTree declaration grammar.start tree ∧
      tree.leaves = before.upcoming grammar.vocabulary ∧ before.faults grammar.vocabulary = [] := by
  subst same
  obtain ⟨items, tree, course, leaves, _, derived, ended⟩ := parsed
  obtain ⟨_, rest, faultless⟩ := ended warned empty
  obtain ⟨faults, skipless⟩ := course.clean warned empty
  refine ⟨tree, isTree_of_derived from' derived, ?_, faults.symm.trans faultless⟩
  rw [course.upcoming, rest, List.append_nil, ← leaves, Taken.consumed_of_not_skipped skipless]

/-- What a parse comes back with, by how its start production ended. -/
def verdict (result : Except Halt (Option Node) × Parser σ) : Parser σ × Outcome :=
  let log := result.2.log
  let parser := { result.2 with log := [] }
  match result.1 with
  | .error .unfinished => (parser, .unfinished)
  | .ok node => (parser, if log.isEmpty then .parsed node else .failed log)
  | .error _ => (parser, if log.isEmpty then .parsed none else .failed log)

theorem fst_verdict (result : Except Halt (Option Node) × Parser σ) :
    (verdict result).1 = { result.2 with log := [] } := by
  obtain ⟨outcome, last⟩ := result
  match outcome with
  | .ok _ => rfl
  | .error .unfinished => rfl
  | .error (.mismatch _) => rfl
  | .error .abort => rfl

/-- A parse is a row of acts. -/
theorem acted_parse (setting : Setting σ) (parser : Parser σ) :
    ∃ acts last, Run setting parser.prepare acts last ∧
      (parse setting parser).1 = { last with log := [] } := by
  obtain ⟨acts, run, _⟩ := @acted_root σ setting parser.prepare
    (parser.prepare.stepBound setting.grammar) (parser.prepare.tokenBound + 2)
    (warned_prepare parser)
  exact ⟨acts, _, run, fst_verdict _⟩

/-- A log that is not empty is what the parse comes back with. -/
theorem verdict_logged {result : Except Halt (Option Node) × Parser σ}
    (finished : (verdict result).2 ≠ .unfinished) (logged : result.2.log ≠ []) :
    (verdict result).2 = .failed result.2.log := by
  obtain ⟨outcome, last⟩ := result
  match outcome with
  | .ok _ => simp [verdict, logged]
  | .error .unfinished => exact absurd rfl finished
  | .error (.mismatch _) => simp [verdict, logged]
  | .error .abort => simp [verdict, logged]

/-- A parse is a row of acts, and at each moment errors are kept back only behind a logged
one. If it comes back without a log there was no trouble, all of the input was read and is a
sentence, and the result is the last answer of the listener. Otherwise there is a log that
is not empty. -/
theorem parse_honest {declaration : Ebnf.Declaration} {grammar : Grammar}
    (built : Grammar.build declaration = .ok grammar) {setting : Setting σ}
    (same : setting.grammar = grammar) (parser : Parser σ) :
    ∃ acts last, Run setting parser.prepare acts last ∧
      (parse setting parser).1 = { last with log := [] } ∧
        (∀ part, part <+: acts → (performed setting parser.prepare part).Warned) ∧
          match (parse setting parser).2 with
          | .parsed root => Flawless setting parser.prepare acts root last ∧
              ∃ tree, Ebnf.IsTree declaration grammar.start tree ∧
                tree.leaves = parser.upcoming grammar.vocabulary ∧
                  parser.faults grammar.vocabulary = []
          | .failed log => log = last.log ∧ log ≠ []
          | .unfinished => False := by
  have from' := Grammar.builtFrom_of_build built
  have warned := warned_prepare parser
  have finished := parse_ne_unfinished from' same parser
  have ends := @acted_root σ setting parser.prepare (parser.prepare.stepBound setting.grammar)
    (parser.prepare.tokenBound + 2) warned
  have parsed := root_of_build from' same (parser.prepare.stepBound setting.grammar)
    (parser.prepare.tokenBound + 2) parser.prepare
  have whole : parse setting parser = verdict ((root setting
    (parser.prepare.stepBound setting.grammar) (parser.prepare.tokenBound + 2)).run.run
      parser.prepare) := rfl
  rw [whole] at finished ⊢
  unfold Ensures at ends parsed
  generalize (root setting _ _).run.run parser.prepare = result at ends parsed finished ⊢
  obtain ⟨outcome, last⟩ := result
  obtain ⟨acts, run, halts, succeeds⟩ := ends
  have always : ∀ part, part <+: acts → (performed setting parser.prepare part).Warned :=
    run.books_always warned fun _ _ warned turns => turns.grows.warned warned
  refine ⟨acts, last, run, fst_verdict _, always, ?_⟩
  by_cases empty : last.log = []
  · cases outcome with
    | ok kept =>
        have success : (verdict (.ok kept, last)).2 = .parsed kept := by simp [verdict, empty]
        rw [success]
        have sentence := sentence_of_unlogged from' same warned empty parsed
        exact ⟨⟨succeeds kept rfl empty, empty, run.untroubled warned empty⟩, sentence⟩
    | error halt =>
        obtain rfl := (halts halt rfl).resolve_right (not_not.mpr empty)
        exact absurd rfl finished
  · rw [verdict_logged finished empty]
    exact ⟨rfl, empty⟩

/-- The parse of `"aab"` as `"a"{2,3} "b"` comes back with the node of `S`. -/
theorem countedTokens_honest : ∃ grammar root acts last,
    Grammar.build Grammar.countedTokens = .ok grammar ∧
      let setting : Setting Unit := { grammar, listener := treeBuilder }
      let fresh : Parser Unit := .ofSource (.ofString "aab") ()
      (parse setting fresh).2 = .parsed (some root) ∧
        Run setting fresh.prepare acts last ∧
          Flawless setting fresh.prepare acts (some root) last := by
  have parses : ((Grammar.build Grammar.countedTokens).toOption.any fun grammar =>
      (parse { grammar, listener := treeBuilder }
        (.ofSource (.ofString "aab") ())).2.hasRoot) = true := by
    decide +kernel
  obtain ⟨grammar, built, parses⟩ := exists_ok_of_any parses
  obtain ⟨acts, last, run, _, _, honest⟩ := @parse_honest Unit _ grammar built
    { grammar, listener := treeBuilder } rfl (.ofSource (.ofString "aab") ())
  obtain ⟨root, parsed⟩ := Outcome.exists_root parses
  rw [parsed] at honest
  exact ⟨grammar, root, acts, last, built, parsed, run, honest.1⟩

end Parser

end StrongLL
