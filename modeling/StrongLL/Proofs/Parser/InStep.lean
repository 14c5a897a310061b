import StrongLL.Proofs.Parser.Likeness
import StrongLL.Proofs.Rules.Rename

/-!
# Two parses in step

Two grammars may number their auxiliary productions differently, and have the alternatives of
a production in another order. If they decide alike, and their listeners answer alike, then
parsers that are alike go through the productions in step and come back with the same.
-/

namespace StrongLL

/-- Elements with the same copies, which go on with the same ahead. -/
structure ElementsAlike (rename : RuleId → RuleId) (left right : ResolvedElement) : Prop where
  symbol : right.symbol = left.symbol.rename rename
  occurs : right.occurs = left.occurs
  decision : Option.Rel (fun decision decision' => decision'.depth = decision.depth ∧
    ∀ input, (decision.select input == some 0) = (decision'.select input == some 0))
      left.decision right.decision

/-- Decisions for branches that correspond, which say the same where there is none. -/
inductive DecideAlike (vocabulary : Vocabulary) (same : Nat → Nat → Prop) :
    Option Decision → Option Decision → Prop where
  | none (first : same 0 0) : DecideAlike vocabulary same none none
  | some {decision decision' : Decision} (depth : decision'.depth = decision.depth)
      (select : ∀ input, Option.Rel same (decision.select input) (decision'.select input))
      (mismatch : ∀ {τ : Type} (parser : Parser τ) input,
        parser.mismatch vocabulary decision input = parser.mismatch vocabulary decision' input) :
      DecideAlike vocabulary same (some decision) (some decision')

/-- Productions with alternatives that correspond, which are chosen with the same ahead. A
declared production keeps its number and its name. -/
structure RulesAlike (rename : RuleId → RuleId) (vocabulary : Vocabulary)
    (events : TraceEvent → TraceEvent → Prop) (left right : ResolvedRule) : Prop where
  id : right.id = rename left.id
  isAuxiliary : right.isAuxiliary = left.isAuxiliary
  declared : left.isAuxiliary = false → rename left.id = left.id ∧ right.name = left.name
  decision : DecideAlike vocabulary (fun index index' =>
    Option.Rel (List.Forall₂ (ElementsAlike rename)) left.alternatives[index]?
        right.alternatives[index']? ∧
      ∀ depth, events (.alternative left.id index depth) (.alternative right.id index' depth))
    left.decision right.decision

theorem elementsAlike_refl (element : ResolvedElement) : ElementsAlike id element element where
  symbol := element.symbol.rename_id.symm
  occurs := rfl
  decision := by
    cases element.decision with
    | none => exact .none
    | some decision => exact .some ⟨rfl, fun _ => rfl⟩

theorem decideAlike_refl {vocabulary : Vocabulary} {same : Nat → Nat → Prop}
    (refl : ∀ index, same index index) (decision : Option Decision) :
    DecideAlike vocabulary same decision decision := by
  cases decision with
  | none => exact .none (refl 0)
  | some decision =>
      refine .some rfl (fun input => ?_) fun _ _ => rfl
      cases decision.select input with
      | none => exact .none
      | some index => exact .some (refl index)

theorem rulesAlike_refl {vocabulary : Vocabulary} {events : TraceEvent → TraceEvent → Prop}
    (same : ∀ event, events event event) (rule : ResolvedRule) :
    RulesAlike id vocabulary events rule rule := by
  refine ⟨rfl, rfl, fun _ => ⟨rfl, rfl⟩, decideAlike_refl (fun index => ⟨?_, fun _ => same _⟩) _⟩
  cases rule.alternatives[index]? with
  | none => exact .none
  | some row => exact .some (List.forall₂_same.mpr fun element _ => elementsAlike_refl element)

namespace Parser

variable {σ τ α β : Type}

/-- A production has the same number and name in both grammars. -/
def KeepsRule (rename : RuleId → RuleId) (setting : Setting σ) (setting' : Setting τ)
    (id : RuleId) : Prop :=
  ∀ found found', setting.grammar.rule? id = some found →
    setting'.grammar.rule? (rename id) = some found' → rename id = id ∧ found'.name = found.name

/-- What two parsers may differ in does not tell anywhere in a parse. -/
structure ParsesAlike (likeness : Likeness σ τ) (rename : RuleId → RuleId) (setting : Setting σ)
    (setting' : Setting τ) : Prop extends ReadsAlike likeness setting setting' where
  start : setting'.grammar.start = rename setting.grammar.start
  rules : ∀ id, Option.Rel (RulesAlike rename setting.grammar.vocabulary likeness.events)
    (setting.grammar.rule? id) (setting'.grammar.rule? (rename id))
  startKept : KeepsRule rename setting setting' setting.grammar.start
  ruleCount : setting'.grammar.rules.length = setting.grammar.rules.length
  widest : widest setting'.grammar = widest setting.grammar
  mostCopies : mostCopies setting'.grammar = mostCopies setting.grammar
  enter : ∀ node left right, likeness.listeners left right →
    likeness.listeners (setting.listener.enter node left).1
        (setting'.listener.enter node right).1 ∧
      (setting.listener.enter node left).2 = (setting'.listener.enter node right).2
  exit : ∀ node left right, likeness.listeners left right →
    likeness.listeners (setting.listener.exit node left).1
        (setting'.listener.exit node right).1 ∧
      (setting.listener.exit node left).2 = (setting'.listener.exit node right).2
  child : ∀ parent node left right, likeness.listeners left right →
    likeness.listeners (setting.listener.child parent node left).1
        (setting'.listener.child parent node right).1 ∧
      (setting.listener.child parent node left).2 = (setting'.listener.child parent node right).2
  opens : ∀ id, likeness.events (.enter id) (.enter (rename id))
  closes : ∀ id, likeness.events (.exit id) (.exit (rename id))
  loop : ∀ id count again,
    likeness.events (.loop id count again) (.loop (rename id) count again)

section

variable {likeness : Likeness σ τ} {rename : RuleId → RuleId} {setting : Setting σ}
  {setting' : Setting τ}

/-- With one grammar nothing is numbered in another way. -/
theorem parsesAlike_of_eq (reads : ReadsAlike likeness setting setting')
    (grammar : setting'.grammar = setting.grammar) (events : ∀ event, likeness.events event event)
    (enter : ∀ node left right, likeness.listeners left right →
      likeness.listeners (setting.listener.enter node left).1
          (setting'.listener.enter node right).1 ∧
        (setting.listener.enter node left).2 = (setting'.listener.enter node right).2)
    (exit : ∀ node left right, likeness.listeners left right →
      likeness.listeners (setting.listener.exit node left).1
          (setting'.listener.exit node right).1 ∧
        (setting.listener.exit node left).2 = (setting'.listener.exit node right).2)
    (child : ∀ parent node left right, likeness.listeners left right →
      likeness.listeners (setting.listener.child parent node left).1
          (setting'.listener.child parent node right).1 ∧
        (setting.listener.child parent node left).2 =
          (setting'.listener.child parent node right).2) :
    ParsesAlike likeness id setting setting' where
  toReadsAlike := reads
  start := congrArg Grammar.start grammar
  rules := by
    intro number
    rw [grammar, id_eq]
    cases setting.grammar.rule? number with
    | none => exact .none
    | some found => exact .some (rulesAlike_refl events found)
  startKept := by
    intro found found' lookup lookup'
    rw [grammar, id_eq] at lookup'
    obtain rfl := Option.some.inj (lookup.symm.trans lookup')
    exact ⟨rfl, rfl⟩
  ruleCount := by rw [grammar]
  widest := by rw [grammar]
  mostCopies := by rw [grammar]
  enter := enter
  exit := exit
  child := child
  opens := fun _ => events _
  closes := fun _ => events _
  loop := fun _ _ _ => events _

/-! ## Steps -/

section

variable (reads : ReadsAlike likeness setting setting')

include reads

theorem inStep_event {event event' : TraceEvent} (events : likeness.events event event') :
    InStep likeness Eq (record event) (record event') :=
  inStep_record fun _ _ traces => reads.traces _ _ _ _ traces events

/-- The answer of a listener is dealt with alike. -/
theorem inStep_abide (answer : Except Diagnostic α) (otherwise : α) :
    InStep likeness Eq (abide setting answer otherwise) (abide setting' answer otherwise) := by
  cases answer with
  | ok value => exact inStep_pure rfl
  | error refusal => exact (inStep_report reads refusal false).then fun _ => inStep_pure rfl

theorem inStep_tell {call : σ → σ × Except Diagnostic α} {call' : τ → τ × Except Diagnostic α}
    (calls : ∀ left right, likeness.listeners left right →
      likeness.listeners (call left).1 (call' right).1 ∧ (call left).2 = (call' right).2)
    (otherwise : α) :
    InStep likeness Eq (tell setting call otherwise) (tell setting' call' otherwise) := by
  unfold tell
  apply inStep_get.bind
  intro left right alike
  obtain ⟨listeners, answers⟩ := calls _ _ alike.listener
  generalize call left.listener = told at listeners answers ⊢
  generalize call' right.listener = told' at listeners answers ⊢
  obtain ⟨listener, answer⟩ := told
  obtain ⟨listener', answer'⟩ := told'
  obtain rfl : answer = answer' := answers
  have changes : InStep likeness Eq
      (modify fun parser => { parser with listener } : Parse σ PUnit)
      (modify fun parser => { parser with listener := listener' }) :=
    inStep_modify fun _ _ alike => { alike with listener := listeners }
  exact changes.then fun _ => inStep_abide reads answer otherwise

theorem inStep_choose {rule rule' : ResolvedRule} {same : Nat → Nat → Prop}
    (decides : DecideAlike setting.grammar.vocabulary same rule.decision rule'.decision) :
    InStep likeness (fun choice choice' => same choice.1 choice'.1 ∧ choice.2 = choice'.2)
      (choose setting rule) (choose setting' rule') := by
  unfold choose
  generalize rule.decision = made at decides ⊢
  generalize rule'.decision = made' at decides ⊢
  cases decides with
  | none first => exact inStep_pure ⟨first, rfl⟩
  | @some decision decision' depth select mismatch =>
      dsimp only
      rw [depth, reads.vocabulary]
      apply (inStep_lookAhead reads _ 0).then
      intro input
      have selected := select input
      generalize decision.select input = choice at selected ⊢
      generalize decision'.select input = choice' at selected ⊢
      cases selected with
      | some related => exact inStep_pure ⟨related, rfl⟩
      | none =>
          apply inStep_get.bind
          intro left right alike
          rw [alike.mismatch reads, mismatch]
          exact inStep_throw _

theorem inStep_wantsMore (loop : ∀ id count again,
      likeness.events (.loop id count again) (.loop (rename id) count again))
    {element element' : ResolvedElement} (same : ElementsAlike rename element element')
    (count : Nat) :
    InStep likeness Eq (wantsMore setting element count) (wantsMore setting' element' count) := by
  have ends (again : Bool) : InStep likeness Eq (recordLoop element.symbol count again)
      (recordLoop element'.symbol count again) := by
    rw [same.symbol]
    cases element.symbol with
    | token id => exact inStep_pure rfl
    | rule id =>
        exact (inStep_event reads (loop id count again)).then fun _ => inStep_pure rfl
  unfold wantsMore
  rw [same.occurs]
  split
  · exact inStep_pure rfl
  · split
    · exact inStep_pure rfl
    · cases decided : element.decision with
      | none =>
          cases decided' : element'.decision with
          | none => exact (inStep_pure rfl).then ends
          | some decision' =>
              have related := same.decision
              rw [decided, decided'] at related
              cases related
      | some decision =>
          have related := same.decision
          rw [decided] at related
          cases decided' : element'.decision with
          | none =>
              rw [decided'] at related
              cases related
          | some decision' =>
              rw [decided'] at related
              cases related with
              | some known =>
                  obtain ⟨depth, select⟩ := known
                  dsimp only
                  rw [depth]
                  apply (inStep_lookAhead reads _ 0).then
                  intro input
                  rw [select input]
                  exact (inStep_pure rfl).then ends

theorem inStep_checkEnd : InStep likeness Eq (checkEnd setting) (checkEnd setting') := by
  unfold checkEnd
  apply (inStep_peek reads 0).then
  intro found
  cases found with
  | none => exact inStep_pure rfl
  | some token =>
      dsimp only
      rw [reads.vocabulary]
      exact inStep_report reads _ true

end

/-- A step inside a production -/
theorem inStep_inside (alike : ParsesAlike likeness rename setting setting') (id : RuleId)
    {same : α → β → Prop} {step : Parse σ α} {step' : Parse τ β}
    (inner : InStep likeness same step step') :
    InStep likeness same (inside setting id step) (inside setting' (rename id) step') := by
  have reads := alike.toReadsAlike
  have goesIn : InStep likeness same
      (do
        record (.enter id)
        leave id (← attempt step))
      (do
        record (.enter (rename id))
        leave (rename id) (← attempt step')) := by
    apply (inStep_event reads (alike.opens id)).then
    intro _
    apply inner.attempt.bind
    intro outcome outcome' matched
    apply (inStep_event reads (alike.closes id)).then
    intro _
    have leaves : InStep likeness Eq
        (modify fun parser => { parser with depth := parser.depth - 1 } : Parse σ PUnit)
        (modify fun parser => { parser with depth := parser.depth - 1 }) :=
      inStep_modify fun _ _ alike => { alike with depth := congrArg (· - 1) alike.depth }
    apply leaves.then
    intro _
    cases matched with
    | ok related => exact inStep_pure related
    | error halt => exact inStep_throw halt
  unfold inside
  apply inStep_get.bind
  intro left right still
  rw [reads.limits, still.depth]
  dsimp only
  have enters : InStep likeness Eq
      (modify fun parser => { parser with depth := right.depth + 1 } : Parse σ PUnit)
      (modify fun parser => { parser with depth := right.depth + 1 }) :=
    inStep_modify fun _ _ alike => { alike with depth := rfl }
  split
  · have fails : InStep likeness Eq (fail .recursionLimit : Parse σ PUnit) (fail .recursionLimit) :=
      inStep_fail reads .recursionLimit
    exact fails.then fun _ => enters.then fun _ => goesIn
  · exact enters.then fun _ => goesIn

section

variable (alike : ParsesAlike likeness rename setting setting')

include alike

theorem inStep_enter (node : Node) :
    InStep likeness Eq (enter setting node) (enter setting' node) :=
  inStep_tell alike.toReadsAlike (alike.enter node) ()

theorem inStep_exit (node : Node) :
    InStep likeness Eq (exit setting node) (exit setting' node) :=
  inStep_tell alike.toReadsAlike (alike.exit node) none

theorem inStep_attach (parent : Branch) (kept : Option Node) :
    InStep likeness Eq (attach setting parent kept) (attach setting' parent kept) := by
  cases kept with
  | none => exact inStep_pure rfl
  | some node =>
      unfold attach
      apply inStep_get.bind
      intro left right still
      obtain ⟨listeners, answers⟩ := alike.child parent node _ _ still.listener
      generalize setting.listener.child parent node left.listener = told at listeners answers ⊢
      generalize setting'.listener.child parent node right.listener = told' at listeners answers ⊢
      obtain ⟨listener, answer⟩ := told
      obtain ⟨listener', answer'⟩ := told'
      obtain rfl : answer = answer' := answers
      have changes : InStep likeness Eq
          (modify fun parser => { parser with listener } : Parse σ PUnit)
          (modify fun parser => { parser with listener := listener' }) :=
        inStep_modify fun _ _ still => { still with listener := listeners }
      apply changes.then
      intro _
      obtain ⟨parent, answer⟩ := answer
      cases answer with
      | ok _ => exact inStep_pure rfl
      | error refusal =>
          exact (inStep_report alike.toReadsAlike refusal false).then fun _ => inStep_pure rfl

theorem inStep_token (id : TokenId) (parent : Branch) :
    InStep likeness Eq (token setting id parent) (token setting' id parent) := by
  have reads := alike.toReadsAlike
  unfold token
  apply (inStep_peek reads 0).then
  intro found
  cases found with
  | none =>
      apply inStep_get.bind
      intro left right still
      rw [still.prematureEnd reads]
      exact inStep_throw _
  | some next =>
      dsimp only
      rw [reads.vocabulary]
      split
      · apply inStep_get.bind
        intro left right still
        rw [still.unexpected reads]
        exact inStep_throw _
      · apply (inStep_consume reads).then
        intro token
        apply (inStep_enter alike _).then
        intro _
        apply (inStep_exit alike _).then
        intro kept
        exact inStep_attach alike parent kept

end

/-! ## The descent -/

/-- The calls with some fuel are in step. -/
structure InStepAt (likeness : Likeness σ τ) (rename : RuleId → RuleId) (setting : Setting σ)
    (setting' : Setting τ) (fuel : Nat) : Prop where
  rule : ∀ id, KeepsRule rename setting setting' id →
    InStep likeness Eq (rule setting fuel id) (rule setting' fuel (rename id))
  alternatives : ∀ found found' parent,
    RulesAlike rename setting.grammar.vocabulary likeness.events found found' →
      InStep likeness Eq (alternatives setting fuel found parent)
        (alternatives setting' fuel found' parent)
  elements : ∀ row row' parent, List.Forall₂ (ElementsAlike rename) row row' →
    InStep likeness Eq (elements setting fuel row parent) (elements setting' fuel row' parent)
  copies : ∀ element element' count parent, ElementsAlike rename element element' →
    InStep likeness Eq (copies setting fuel element count parent)
      (copies setting' fuel element' count parent)
  symbol : ∀ target parent, InStep likeness Eq (symbol setting fuel target parent)
    (symbol setting' fuel (target.rename rename) parent)

section

variable {fuel : Nat} (inStep : InStepAt likeness rename setting setting' fuel)

include inStep

theorem inStep_elements {row row' : List ResolvedElement} (parent : Branch)
    (same : List.Forall₂ (ElementsAlike rename) row row') :
    InStep likeness Eq (elements setting (fuel + 1) row parent)
      (elements setting' (fuel + 1) row' parent) := by
  cases same with
  | nil => exact inStep_pure rfl
  | cons first rest =>
      apply (inStep.copies _ _ 0 parent first).then
      intro branch
      exact inStep.elements _ _ branch rest

variable (alike : ParsesAlike likeness rename setting setting')

include alike

theorem inStep_rule (id : RuleId) (keeps : KeepsRule rename setting setting' id) :
    InStep likeness Eq (rule setting (fuel + 1) id) (rule setting' (fuel + 1) (rename id)) := by
  have rules := alike.rules id
  unfold KeepsRule at keeps
  unfold rule
  generalize setting.grammar.rule? id = found at rules keeps ⊢
  generalize setting'.grammar.rule? (rename id) = found' at rules keeps ⊢
  cases rules with
  | none => exact inStep_fail alike.toReadsAlike .unknownRule
  | @some found found' same =>
      obtain ⟨number, name⟩ := keeps found found' rfl rfl
      dsimp only
      rw [number, name]
      apply (inStep_enter alike _).then
      intro _
      apply (inStep.alternatives found found' _ same).then
      intro branch
      exact inStep_exit alike branch.toNode

theorem inStep_alternatives {found found' : ResolvedRule} (parent : Branch)
    (same : RulesAlike rename setting.grammar.vocabulary likeness.events found found') :
    InStep likeness Eq (alternatives setting (fuel + 1) found parent)
      (alternatives setting' (fuel + 1) found' parent) := by
  unfold alternatives
  rw [same.id]
  apply inStep_inside alike
  apply (inStep_choose alike.toReadsAlike same.decision).bind
  rintro ⟨index, depth⟩ ⟨index', _⟩ ⟨⟨rows, events⟩, rfl⟩
  dsimp only at rows events ⊢
  generalize found.alternatives[index]? = row at rows ⊢
  generalize found'.alternatives[index']? = row' at rows ⊢
  cases rows with
  | none => exact inStep_fail alike.toReadsAlike .noSuchAlternative
  | some rows =>
      rw [same.id] at events
      exact (inStep_event alike.toReadsAlike (events depth)).then fun _ =>
        inStep.elements _ _ parent rows

theorem inStep_copies {element element' : ResolvedElement} (count : Nat) (parent : Branch)
    (same : ElementsAlike rename element element') :
    InStep likeness Eq (copies setting (fuel + 1) element count parent)
      (copies setting' (fuel + 1) element' count parent) := by
  rw [copies_succ, copies_succ]
  apply (inStep_wantsMore alike.toReadsAlike alike.loop same count).then
  intro wanted
  cases wanted with
  | false => exact inStep_pure rfl
  | true =>
      simp only [if_true]
      rw [same.symbol]
      apply (inStep.symbol element.symbol parent).rescue
      · rintro branch _ rfl
        exact inStep.copies _ _ (count + 1) branch same
      · intro diagnostic
        apply (inStep_recover alike.toReadsAlike diagnostic).then
        intro _
        exact inStep.copies _ _ count parent same

theorem inStep_symbol (target : Symbol) (parent : Branch) :
    InStep likeness Eq (symbol setting (fuel + 1) target parent)
      (symbol setting' (fuel + 1) (target.rename rename) parent) := by
  cases target with
  | token id => exact inStep_token alike id parent
  | rule id =>
      have rules := alike.rules id
      unfold symbol Symbol.rename
      dsimp only
      generalize lookup : setting.grammar.rule? id = found at rules ⊢
      generalize lookup' : setting'.grammar.rule? (rename id) = found' at rules ⊢
      cases rules with
      | none => exact inStep_fail alike.toReadsAlike .unknownRule
      | @some found found' same =>
          dsimp only
          rw [same.isAuxiliary]
          split
          · exact inStep.alternatives found found' parent same
          · rename_i isDeclared
            have keeps : KeepsRule rename setting setting' id := by
              intro other other' isOther isOther'
              obtain rfl := Option.some.inj (lookup.symm.trans isOther)
              obtain rfl := Option.some.inj (lookup'.symm.trans isOther')
              obtain ⟨number, name⟩ := same.declared (Bool.not_eq_true _ ▸ isDeclared)
              obtain rfl : found.id = id := by simpa using List.find?_some lookup
              exact ⟨number, name⟩
            apply (inStep.rule id keeps).then
            intro kept
            exact inStep_attach alike parent kept

end

theorem ParsesAlike.inStepAt (alike : ParsesAlike likeness rename setting setting') (fuel : Nat) :
    InStepAt likeness rename setting setting' fuel := by
  induction fuel with
  | zero =>
      constructor
      · exact fun _ _ => inStep_throw .unfinished
      · exact fun _ _ _ _ => inStep_throw .unfinished
      · exact fun _ _ _ _ => inStep_throw .unfinished
      · exact fun _ _ _ _ _ => inStep_throw .unfinished
      · exact fun _ _ => inStep_throw .unfinished
  | succ fuel ih =>
      exact ⟨inStep_rule ih alike, fun _ _ => inStep_alternatives ih alike,
        fun _ _ => inStep_elements ih, fun _ _ => inStep_copies ih alike,
        inStep_symbol ih alike⟩

/-! ## Whole parses -/

section

variable (alike : ParsesAlike likeness rename setting setting')

include alike

theorem inStep_root (steps fuel : Nat) :
    InStep likeness Eq (root setting steps fuel) (root setting' steps fuel) := by
  induction fuel with
  | zero => exact inStep_throw .unfinished
  | succ fuel ih =>
      have first : InStep likeness Eq (rule setting steps setting.grammar.start)
          (rule setting' steps setting'.grammar.start) := by
        rw [alike.start]
        exact (alike.inStepAt steps).rule _ alike.startKept
      unfold root
      apply first.attempt.bind
      rintro _ _ (related | halt)
      · subst related
        exact (inStep_checkEnd alike.toReadsAlike).attempt.discard.then fun _ => inStep_pure rfl
      · cases halt with
        | mismatch diagnostic =>
            exact (inStep_recover alike.toReadsAlike diagnostic).then fun _ => ih
        | abort => exact inStep_throw .abort
        | unfinished => exact inStep_throw .unfinished

/-- Parsers that are alike come back with the same, and are alike behind the parse. -/
theorem parse_alike {left : Parser σ} {right : Parser τ}
    (logs : ∀ log log', likeness.logs log log' ↔ log = log')
    (start : Alike likeness left.prepare right.prepare) :
    (parse setting left).2 = (parse setting' right).2 ∧
      Alike likeness (parse setting left).1 (parse setting' right).1 := by
  have bounds : left.prepare.tokenBound = right.prepare.tokenBound := by
    unfold tokenBound
    rw [alike.remaining _ _ start.scanner, start.buffer]
  have steps : left.prepare.stepBound setting.grammar =
      right.prepare.stepBound setting'.grammar := by
    unfold stepBound
    rw [bounds, alike.ruleCount, alike.widest, alike.mostCopies]
  obtain ⟨matched, still⟩ := inStep_root alike (left.prepare.stepBound setting.grammar)
    (left.prepare.tokenBound + 2) left.prepare right.prepare start
  unfold parse
  dsimp only
  rw [← steps, ← bounds]
  generalize (root setting _ _).run.run left.prepare = result at matched still ⊢
  generalize (root setting' _ _).run.run right.prepare = result' at matched still ⊢
  obtain ⟨outcome, after⟩ := result
  obtain ⟨outcome', after'⟩ := result'
  have log : after.log = after'.log := (logs _ _).mp still.log
  have ended : Alike likeness { after with log := [] } { after' with log := [] } :=
    { still with log := (logs _ _).mpr rfl }
  dsimp only at matched log ended ⊢
  rw [log]
  cases matched with
  | ok related =>
      subst related
      exact ⟨rfl, ended⟩
  | error halt =>
      cases halt with
      | mismatch diagnostic => exact ⟨rfl, ended⟩
      | abort => exact ⟨rfl, ended⟩
      | unfinished => exact ⟨rfl, ended⟩

end

end

end Parser

end StrongLL
