import StrongLL.Proofs.Parser.Acts
import StrongLL.Proofs.Parser.Congruence

/-!
# The steps of a parser are rows of acts

Each step of the descent is a row of acts, from every state in which errors are kept back
only behind a logged one. A step that ends the parse leaves something in the log. Looking
ahead does nothing but scan.
-/

namespace StrongLL

namespace Parser

variable {σ α β : Type} {setting : Setting σ} {kind : Act → Prop} {before middle after : Parser σ}

/-! ## Rows of acts of a kind -/

/-- All acts. -/
def anyAct (_ : Act) : Prop := True

/-- What a parser does with its input alone. -/
inductive Act.OnInput : Act → Prop where
  | scan : OnInput .scan
  | mismatch (diagnostic : Diagnostic) : OnInput (.mismatch diagnostic)
  | exhausted : OnInput (.fail .executionLimit)
  | consume (token : Token) : OnInput (.consume token)
  | skip (token : Token) : OnInput (.skip token)
  | decide (event : TraceEvent) : OnInput (.decide event)

/-- A row of acts of a kind leads from one state to another. Where the parse is over
something is logged. -/
def Acted (setting : Setting σ) (kind : Act → Prop) (before : Parser σ)
    (outcome : Except Halt α) (after : Parser σ) : Prop :=
  ∃ acts, Run setting before acts after ∧ (∀ act ∈ acts, kind act) ∧
    (outcome = .error .abort → after.log ≠ [])

/-- A step is a row of acts of a kind, wherever it begins. -/
def ActsAs (setting : Setting σ) (kind : Act → Prop) (step : Parse σ α) : Prop :=
  ∀ before, before.Warned → Ensures step before (Acted setting kind before)

section

variable {outcome : Except Halt α} {other : Except Halt β}

theorem acted_nothing (goesOn : outcome ≠ .error .abort) :
    Acted setting kind before outcome before :=
  ⟨[], .done before, by simp, fun aborted => absurd aborted goesOn⟩

theorem acted_single {act : Act} (allowed : act.Allowed setting.limits before)
    (isKind : kind act)
    (logged : outcome = .error .abort → (act.apply setting before).log ≠ []) :
    Acted setting kind before outcome (act.apply setting before) := by
  refine ⟨[act], .single allowed, fun other member => ?_, logged⟩
  rwa [List.mem_singleton.mp member]

theorem Acted.behind (first : Acted setting kind before outcome middle)
    (later : Acted setting kind middle other after) : Acted setting kind before other after := by
  obtain ⟨acts, run, kinds, _⟩ := first
  obtain ⟨further, more, moreKinds, logged⟩ := later
  refine ⟨acts ++ further, run.append more, fun act member => ?_, logged⟩
  rcases List.mem_append.mp member with member | member
  · exact kinds act member
  · exact moreKinds act member

theorem Acted.warned (acted : Acted setting kind before outcome after) (warned : before.Warned) :
    after.Warned := by
  obtain ⟨acts, run, _⟩ := acted
  exact run.warned warned

/-- The acts of a step do not depend on what it comes back with. -/
theorem Acted.become (acted : Acted setting kind before outcome after)
    (abort : other = .error .abort → outcome = .error .abort) :
    Acted setting kind before other after := by
  obtain ⟨acts, run, kinds, logged⟩ := acted
  exact ⟨acts, run, kinds, fun aborted => logged (abort aborted)⟩

theorem Acted.halt {halt : Halt}
    (acted : Acted setting kind before (.error halt : Except Halt α) after) :
    Acted setting kind before (.error halt : Except Halt β) after :=
  acted.become fun aborted => congrArg _ (Except.error.inj aborted)

theorem Acted.weaken {kind' : Act → Prop} (acted : Acted setting kind before outcome after)
    (wider : ∀ act, kind act → kind' act) : Acted setting kind' before outcome after := by
  obtain ⟨acts, run, kinds, logged⟩ := acted
  exact ⟨acts, run, fun act member => wider act (kinds act member), logged⟩

theorem Acted.any (acted : Acted setting kind before outcome after) :
    Acted setting anyAct before outcome after :=
  acted.weaken fun _ _ => trivial

end

/-- Behind a step of which something is known a row of acts goes on. -/
theorem Ensures.acted_bind {step : Parse σ α} {next : α → Parse σ β}
    {facts : Except Halt α → Parser σ → Prop} (warned : before.Warned)
    (first : Ensures step before fun outcome middle =>
      Acted setting kind before outcome middle ∧ facts outcome middle)
    (more : ∀ value middle, middle.Warned → facts (.ok value) middle →
      Ensures (next value) middle (Acted setting kind middle)) :
    Ensures (step >>= next) before (Acted setting kind before) := by
  apply first.bind
  · rintro value middle ⟨acted, known⟩
    apply (more value middle (acted.warned warned) known).mono
    intro outcome after later
    exact acted.behind later
  · rintro halt middle ⟨acted, _⟩
    exact acted.halt

theorem Ensures.acted_then {step : Parse σ α} {next : α → Parse σ β} (warned : before.Warned)
    (first : Ensures step before (Acted setting kind before))
    (more : ∀ value, ActsAs setting kind (next value)) :
    Ensures (step >>= next) before (Acted setting kind before) := by
  have nothing : Ensures step before fun _ _ => True := trivial
  exact Ensures.acted_bind warned (first.and nothing) fun value middle still _ =>
    more value middle still

theorem actsAs_pure (value : α) : ActsAs setting kind (pure value : Parse σ α) :=
  fun _ _ => acted_nothing (by simp)

theorem actsAs_throw {halt : Halt} (goesOn : halt ≠ .abort) :
    ActsAs setting kind (throw halt : Parse σ α) :=
  fun _ _ => acted_nothing fun aborted => goesOn (Except.error.inj aborted)

theorem actsAs_get : ActsAs setting kind (get : Parse σ (Parser σ)) :=
  fun _ _ => ensures_get.mpr (acted_nothing (by simp))

theorem ActsAs.bind {step : Parse σ α} {next : α → Parse σ β} (first : ActsAs setting kind step)
    (more : ∀ value, ActsAs setting kind (next value)) : ActsAs setting kind (step >>= next) :=
  fun before warned => (first before warned).acted_then warned more

theorem ActsAs.weaken {kind' : Act → Prop} {step : Parse σ α} (acts : ActsAs setting kind step)
    (wider : ∀ act, kind act → kind' act) : ActsAs setting kind' step :=
  fun before warned => (acts before warned).mono fun _ _ acted => acted.weaken wider

theorem ActsAs.any {step : Parse σ α} (acts : ActsAs setting kind step) :
    ActsAs setting anyAct step :=
  acts.weaken fun _ _ => trivial

/-- Whatever becomes of a mismatch is done behind it. -/
theorem ActsAs.rescue {step : Parse σ α} {next : α → Parse σ β}
    {handler : Diagnostic → Parse σ β} (first : ActsAs setting kind step)
    (more : ∀ value, ActsAs setting kind (next value))
    (handled : ∀ diagnostic, ActsAs setting kind (handler diagnostic)) :
    ActsAs setting kind (rescue step next handler) := by
  intro before warned
  unfold Parser.rescue
  rw [ensures_bind, ensures_attempt]
  apply (first before warned).mono
  intro outcome middle acted
  have still := acted.warned warned
  cases outcome with
  | ok value => exact (more value middle still).mono fun _ _ later => acted.behind later
  | error halt =>
      cases halt with
      | mismatch diagnostic =>
          exact (handled diagnostic middle still).mono fun _ _ later => acted.behind later
      | abort => exact acted.halt
      | unfinished => exact acted.halt

/-! ## Reporting -/

/-- A fault of the parser itself is logged in any case. -/
theorem log_fail (fault : Fault) : ((Act.fail fault).apply setting before).log =
    before.log ++ [.located (.internal fault) before.position] := by
  simp [Act.apply, note, Diagnostic.located, Problem.isExternal]

theorem log_fail_ne_nil (fault : Fault) : ((Act.fail fault).apply setting before).log ≠ [] := by
  simp [log_fail]

theorem log_note (diagnostic : Diagnostic) (warned : before.Warned) :
    (before.note diagnostic).log ≠ [] :=
  (reported_note diagnostic before.recovery).logged warned

theorem log_stumble (diagnostic : Diagnostic) (warned : before.Warned) :
    (stumble diagnostic before).log ≠ [] :=
  (reported_note diagnostic recoveryTokens).logged warned

/-- Reporting changes the parser in one way, whether it goes on or not. -/
theorem ensures_report_eq (diagnostic : Diagnostic) (recovering : Bool) :
    Ensures (report setting diagnostic recovering) before fun outcome after =>
      (outcome = .ok () ∨ outcome = .error .abort) ∧
        after = if recovering then stumble diagnostic before else before.note diagnostic := by
  have ends (last : Parser σ) : Ensures (do
      let parser ← get
      if !diagnostic.isRecoverable || parser.isLogFull setting.limits then throw .abort
      else pure () : Parse σ Unit) last fun outcome after =>
        (outcome = .ok () ∨ outcome = .error .abort) ∧ after = last := by
    simp only [ensures_bind, ensures_get]
    split
    · exact ⟨.inr rfl, rfl⟩
    · exact ⟨.inl rfl, rfl⟩
  unfold report
  simp only [ensures_bind, ensures_modify]
  cases recovering with
  | true => exact ends (stumble diagnostic before)
  | false => exact ends (before.note diagnostic)

/-- A parse only goes on behind an error that it can recover from. -/
theorem ensures_report_recoverable (diagnostic : Diagnostic) (recovering : Bool) :
    Ensures (report setting diagnostic recovering) before fun outcome _ =>
      outcome = .ok () → diagnostic.isRecoverable = true := by
  have ends (last : Parser σ) : Ensures (do
      let parser ← get
      if !diagnostic.isRecoverable || parser.isLogFull setting.limits then throw .abort
      else pure () : Parse σ Unit) last fun outcome _ =>
        outcome = .ok () → diagnostic.isRecoverable = true := by
    simp only [ensures_bind, ensures_get]
    cases diagnostic.isRecoverable with
    | true => exact fun _ => rfl
    | false => exact fun never => nomatch never
  unfold report
  simp only [ensures_bind, ensures_modify]
  cases recovering with
  | true => exact ends (stumble diagnostic before)
  | false => exact ends (before.note diagnostic)

theorem acted_fail {fault : Fault} (allowed : (Act.fail fault).Allowed setting.limits before) :
    Ensures (fail fault : Parse σ α) before (Acted setting anyAct before) :=
  acted_single allowed trivial fun _ => log_fail_ne_nil _

/-! ## Looking ahead -/

theorem actsAs_fetch (index fuel : Nat) : ActsAs setting (· = .scan) (fetch setting index fuel) := by
  induction fuel with
  | zero => exact actsAs_throw (by simp)
  | succ fuel ih =>
      intro before warned
      unfold fetch
      simp only [ensures_bind, ensures_get]
      split
      · exact acted_nothing (by simp)
      · rename_i missing
        simp only [Bool.or_eq_true, decide_eq_true_eq, not_or, Bool.not_eq_true] at missing
        have scan : Acted setting (· = .scan) before (.ok () : Except Halt Unit)
            (Act.scan.apply setting before) := acted_single missing.2 rfl (by simp)
        have still := scan.warned warned
        revert scan still
        unfold Act.apply scanned
        match before.scanner.next setting.grammar.vocabulary with
        | (scanner, .ok (some token)) =>
            intro scan still
            exact (ih _ still).mono fun _ _ later => scan.behind later
        | (scanner, .ok none) =>
            intro scan still
            exact (ih _ still).mono fun _ _ later => scan.behind later
        | (scanner, .error diagnostic) =>
            intro scan still
            simp only [ensures_bind, ensures_set]
            apply (ensures_report_eq diagnostic true).mono
            rintro outcome middle ⟨rfl | rfl, rfl⟩
            · exact (ih _ still).mono fun _ _ later => scan.behind later
            · obtain ⟨acts, run, kinds, _⟩ := scan
              have logged := log_stumble diagnostic
                (show ({ before with scanner } : Parser σ).Warned from warned)
              exact ⟨acts, run, kinds, fun _ => logged⟩

theorem actsAs_peek (index : Nat) : ActsAs setting (· = .scan) (peek setting index) :=
  actsAs_get.bind fun _ => (actsAs_fetch index _).bind fun _ =>
    actsAs_get.bind fun _ => actsAs_pure _

theorem actsAs_lookAhead (depth index : Nat) :
    ActsAs setting (· = .scan) (lookAhead setting depth index) := by
  induction depth generalizing index with
  | zero => exact actsAs_pure []
  | succ depth ih =>
      unfold lookAhead
      apply (actsAs_peek index).bind
      intro found
      cases found with
      | none => exact actsAs_pure _
      | some token => exact (ih (index + 1)).bind fun _ => actsAs_pure _

theorem onInput_of_scan (act : Act) (isScan : act = .scan) : act.OnInput := isScan ▸ .scan

/-! ## The listener -/

/-- The answer of a call is passed on. What is refused is reported, and something else stands
in for the answer. -/
def Answers (answer : Except Diagnostic α) (otherwise : α) (outcome : Except Halt α) : Prop :=
  match answer with
  | .ok value => outcome = .ok value
  | .error _ => outcome = .ok otherwise ∨ outcome = .error .abort

/-- A call whose answer is heeded is cut off only where it is refused. -/
theorem Answers.logged {answer : Except Diagnostic α} {otherwise : α} {outcome : Except Halt α}
    (answers : Answers answer otherwise outcome) (warned : before.Warned)
    (aborted : outcome = .error .abort) : (heed answer before).log ≠ [] := by
  cases answer with
  | ok value =>
      obtain rfl : outcome = .ok value := answers
      cases aborted
  | error refusal => exact log_note refusal warned

/-- Where nothing is logged nothing was refused. -/
theorem Answers.eq_ok {answer : Except Diagnostic α} {otherwise value : α}
    (answers : Answers answer otherwise (.ok value)) (warned : before.Warned)
    (empty : (heed answer before).log = []) : answer = .ok value := by
  cases answer with
  | ok found =>
      have same : Except.ok value = .ok found := answers
      rw [Except.ok.inj same]
  | error refusal => exact absurd empty (log_note refusal warned)

/-- Whatever stands in for the answer, a refusal is reported. -/
theorem ensures_refuse (refusal : Diagnostic) (value : α) :
    Ensures (do report setting refusal false; return value) before fun outcome after =>
      after = before.note refusal ∧ (outcome = .ok value ∨ outcome = .error .abort) := by
  rw [ensures_bind]
  apply (ensures_report_eq refusal false).mono
  rintro outcome after ⟨rfl | rfl, rfl⟩
  · exact ⟨rfl, .inl rfl⟩
  · exact ⟨rfl, .inr rfl⟩

theorem ensures_tell_eq (call : σ → σ × Except Diagnostic α) (otherwise : α) :
    Ensures (tell setting call otherwise) before fun outcome after =>
      after = heed (call before.listener).2 { before with listener := (call before.listener).1 } ∧
        Answers (call before.listener).2 otherwise outcome := by
  unfold tell
  simp only [ensures_bind, ensures_get, ensures_modify]
  cases (call before.listener).2 with
  | ok value => exact ⟨rfl, rfl⟩
  | error refusal => exact ensures_refuse refusal otherwise

theorem ensures_exit_eq (node : Node) : Ensures (exit setting node) before fun outcome after =>
    after = (Act.exit node).apply setting before ∧
      Answers (setting.listener.exit node before.listener).2 none outcome :=
  ensures_tell_eq (setting.listener.exit node) none

theorem ensures_attach_eq (parent : Branch) (node : Node) :
    Ensures (attach setting parent (some node)) before fun outcome after =>
      let told := setting.listener.child parent node before.listener
      after = (Act.child parent node).apply setting before ∧
        (outcome = .ok told.2.1 ∨ outcome = .error .abort ∧ ∃ refusal, told.2.2 = .error refusal) := by
  unfold attach Act.apply
  simp only [ensures_bind, ensures_get, ensures_modify]
  cases (setting.listener.child parent node before.listener).2.2 with
  | ok _ => exact ⟨rfl, .inl rfl⟩
  | error refusal =>
      apply (ensures_refuse refusal _).mono
      rintro outcome after ⟨rfl, ended⟩
      exact ⟨rfl, ended.imp_right fun aborted => ⟨aborted, refusal, rfl⟩⟩

theorem actsAs_tell {call : σ → σ × Except Diagnostic α} {otherwise : α} (act : Act)
    (always : ∀ parser : Parser σ, act.Allowed setting.limits parser)
    (applies : ∀ parser : Parser σ, act.apply setting parser =
      heed (call parser.listener).2 { parser with listener := (call parser.listener).1 }) :
    ActsAs setting anyAct (tell setting call otherwise) := by
  intro before warned
  apply (ensures_tell_eq call otherwise).mono
  rintro outcome after ⟨rfl, answers⟩
  rw [← applies]
  apply acted_single (always before) trivial
  intro aborted
  rw [applies]
  exact answers.logged warned aborted

theorem actsAs_enter (node : Node) : ActsAs setting anyAct (enter setting node) :=
  actsAs_tell (.enter node) (fun _ => trivial) fun _ => rfl

theorem actsAs_exit (node : Node) : ActsAs setting anyAct (exit setting node) :=
  actsAs_tell (.exit node) (fun _ => trivial) fun _ => rfl

theorem actsAs_attach (parent : Branch) (kept : Option Node) :
    ActsAs setting anyAct (attach setting parent kept) := by
  cases kept with
  | none => exact actsAs_pure parent
  | some node =>
      intro before warned
      have allowed : (Act.child parent node).Allowed setting.limits before := trivial
      apply (ensures_attach_eq parent node).mono
      rintro outcome after ⟨rfl, ended⟩
      apply acted_single allowed trivial
      rintro rfl
      obtain ⟨_, refusal, refused⟩ := ended.resolve_left (by simp)
      simp only [Act.apply, refused]
      exact log_note refusal warned

/-! ## Taking tokens -/

/-- A token is counted, or the limit is reached. -/
theorem ensures_spend_eq : Ensures (spend setting) before fun outcome after =>
    (outcome = .ok () ∧ after = { before with executed := before.executed + 1 } ∧
        ∀ limit, setting.limits.execution = some limit → before.executed < limit) ∨
      (outcome = .error .abort ∧ after = (Act.fail .executionLimit).apply setting before ∧
        (Act.fail .executionLimit).Allowed setting.limits before) := by
  unfold spend
  simp only [ensures_bind, ensures_get]
  split
  · rename_i exceeded
    exact .inr ⟨rfl, rfl, allowed_executionLimit exceeded⟩
  · rename_i spare
    refine .inl ⟨rfl, rfl, fun limit isLimit => ?_⟩
    simpa [isLimit] using spare

/-- A token in front of the buffer is taken, or the limit is reached. -/
theorem ensures_consume_eq {token : Token} {rest : List Token}
    (buffered : before.buffer = token :: rest) :
    Ensures (consume setting) before fun outcome after =>
      (outcome = .ok token ∧ after = (Act.consume token).apply setting before ∧
          (Act.consume token).Allowed setting.limits before) ∨
        (outcome = .error .abort ∧ after = (Act.fail .executionLimit).apply setting before ∧
          (Act.fail .executionLimit).Allowed setting.limits before) := by
  unfold consume
  rw [ensures_bind]
  apply ensures_spend_eq.mono
  rintro outcome after (⟨rfl, rfl, spare⟩ | exceeded)
  · simp only [ensures_bind, ensures_get, buffered, ensures_modify, ensures_record, ensures_pure]
    refine .inl ⟨trivial, ?_, ⟨rest, buffered⟩, spare⟩
    simp only [Act.apply, buffered, List.tail_cons]
  · obtain ⟨rfl, rfl, allowed⟩ := exceeded
    exact .inr ⟨rfl, rfl, allowed⟩

theorem acted_consume {token : Token} {rest : List Token}
    (buffered : before.buffer = token :: rest) :
    Ensures (consume setting) before (Acted setting Act.OnInput before) := by
  apply (ensures_consume_eq buffered).mono
  rintro outcome after (⟨rfl, rfl, allowed⟩ | ⟨rfl, rfl, allowed⟩)
  · exact acted_single allowed (.consume token) (by simp)
  · exact acted_single allowed .exhausted fun _ => log_fail_ne_nil _

theorem actsAs_token (id : TokenId) (parent : Branch) :
    ActsAs setting anyAct (token setting id parent) := by
  intro before warned
  unfold token
  apply Ensures.acted_bind warned (((actsAs_peek 0).any before warned).and (ensures_peek 0))
  rintro found middle still ⟨_, buffered⟩
  cases found with
  | none => exact (actsAs_get.bind fun _ => actsAs_throw (by simp)) middle still
  | some next =>
      dsimp only
      split
      · simp only [ensures_bind, ensures_get, ensures_throw]
        exact acted_nothing (by simp)
      · obtain ⟨rest, shape⟩ := exists_cons_of_getElem?_zero (buffered _ rfl).1
        have consumed : Ensures (consume setting) middle (Acted setting anyAct middle) :=
          (acted_consume shape).mono fun _ _ acted => acted.any
        apply consumed.acted_then still
        intro token
        exact (actsAs_enter _).bind fun _ => (actsAs_exit _).bind (actsAs_attach parent)

/-- A token is skipped behind an error that is logged. -/
theorem acted_skip (warned : before.Warned) (logged : before.log ≠ []) :
    Ensures (skip setting) before (Acted setting Act.OnInput before) := by
  unfold skip
  have look := ((@actsAs_peek σ setting 0).weaken onInput_of_scan before warned).and
    (ensures_peek 0)
  apply Ensures.acted_bind warned (look.mono fun _ _ known => ⟨known.1, known⟩)
  rintro found middle still ⟨⟨acts, run, _⟩, _, buffered⟩
  cases found with
  | none => exact actsAs_pure false middle still
  | some token =>
      obtain ⟨rest, shape⟩ := exists_cons_of_getElem?_zero (buffered _ rfl).1
      rw [ensures_bind]
      apply ensures_spend_eq.mono
      rintro outcome after (⟨rfl, rfl, spare⟩ | ⟨rfl, rfl, allowed⟩)
      · have acted : Acted setting Act.OnInput middle (.ok true : Except Halt Bool)
            ((Act.skip token).apply setting middle) :=
          acted_single ⟨⟨rest, shape⟩, run.logged logged, spare⟩ (.skip token) (by simp)
        exact acted
      · exact acted_single allowed .exhausted fun _ => log_fail_ne_nil _

theorem actsAs_recover (diagnostic : Diagnostic) :
    ActsAs setting Act.OnInput (recover setting diagnostic) := by
  intro before warned
  unfold recover
  have logged := log_stumble diagnostic warned
  have allowed : (Act.mismatch diagnostic).Allowed setting.limits before := trivial
  rw [ensures_bind]
  apply (ensures_report_eq diagnostic true).mono
  rintro outcome middle ⟨rfl | rfl, rfl⟩
  · have stumbled : Acted setting Act.OnInput before (.ok () : Except Halt Unit)
        (stumble diagnostic before) := acted_single allowed (.mismatch diagnostic) (by simp)
    have still := stumbled.warned warned
    dsimp only [if_true]
    rw [ensures_bind]
    apply (acted_skip still logged).mono
    intro outcome after skipped
    match outcome with
    | .ok true => exact stumbled.behind (skipped.become nofun)
    | .ok false =>
        obtain ⟨acts, run, kinds, _⟩ := stumbled.behind skipped
        obtain ⟨_, further, _⟩ := skipped
        exact ⟨acts, run, kinds, fun _ => further.logged logged⟩
    | .error halt => exact stumbled.behind skipped.halt
  · exact acted_single allowed (.mismatch diagnostic) fun _ => logged

/-! ## Decisions -/

theorem actsAs_decide {event : TraceEvent}
    (isDecision : ∀ parser : Parser σ, (Act.decide event).Allowed setting.limits parser) :
    ActsAs setting Act.OnInput (record event : Parse σ Unit) :=
  fun before _ => ensures_record.mpr (acted_single (isDecision before) (.decide event) (by simp))

theorem actsAs_choose (rule : ResolvedRule) :
    ActsAs setting Act.OnInput (choose setting rule) := by
  unfold choose
  cases rule.decision with
  | none => exact actsAs_pure (0, 0)
  | some decision =>
      apply ((actsAs_lookAhead decision.depth 0).weaken onInput_of_scan).bind
      intro input
      cases decision.select input with
      | some index => exact actsAs_pure _
      | none => exact actsAs_get.bind fun _ => actsAs_throw (by simp)

theorem actsAs_recordLoop (symbol : Symbol) (count : Nat) (again : Bool) :
    ActsAs setting Act.OnInput (recordLoop symbol count again) := by
  cases symbol with
  | token id => exact actsAs_pure again
  | rule id =>
      exact (actsAs_decide fun _ => .inr ⟨id, count, again, rfl⟩).bind fun _ => actsAs_pure again

theorem actsAs_wantsMore (element : ResolvedElement) (count : Nat) :
    ActsAs setting Act.OnInput (wantsMore setting element count) := by
  have ends := @actsAs_recordLoop σ setting element.symbol count
  unfold wantsMore
  split
  · exact actsAs_pure false
  · split
    · exact actsAs_pure true
    · cases element.decision with
      | none => exact (actsAs_pure false).bind ends
      | some decision =>
          have looks : ActsAs setting Act.OnInput (lookAhead setting decision.depth 0) :=
            (actsAs_lookAhead decision.depth 0).weaken onInput_of_scan
          exact looks.bind fun _ => (actsAs_pure _).bind ends

/-! ## Productions -/

/-- A production is left in any case once it is entered, and it is entered within the limit. -/
theorem ensures_inside_eq {rule : RuleId} {step : Parse σ α}
    {post : Except Halt α → Parser σ → Prop}
    (limited : (Act.fail .recursionLimit).Allowed setting.limits before →
      post (.error .abort) ((Act.fail .recursionLimit).apply setting before))
    (inner : (Act.openRule rule).Allowed setting.limits before →
      Ensures step ((Act.openRule rule).apply setting before) fun outcome last =>
        post outcome ((Act.closeRule rule).apply setting last)) :
    Ensures (inside setting rule step) before post := by
  unfold inside
  simp only [ensures_bind, ensures_get]
  split
  · rename_i exceeded
    simp only [ensures_bind]
    exact limited (allowed_recursionLimit exceeded)
  · rename_i spare
    simp only [ensures_bind, ensures_modify, ensures_record, ensures_attempt]
    apply (inner (allowed_openRule rule spare)).mono
    intro outcome last closed
    cases outcome with
    | ok value => exact closed
    | error halt => exact closed

theorem actsAs_inside (rule : RuleId) {step : Parse σ α} (opens : kind (.openRule rule))
    (closes : kind (.closeRule rule)) (limited : kind (.fail .recursionLimit))
    (inner : ActsAs setting kind step) : ActsAs setting kind (inside setting rule step) := by
  intro before warned
  apply ensures_inside_eq
  · exact fun allowed => acted_single allowed limited fun _ => log_fail_ne_nil _
  · intro allowed
    have opened : Acted setting kind before (.ok () : Except Halt Unit)
        ((Act.openRule rule).apply setting before) := acted_single allowed opens (by simp)
    apply (inner _ (opened.warned warned)).mono
    intro outcome last acted
    obtain ⟨acts, run, kinds, logged⟩ := opened.behind acted
    have closing : (Act.closeRule rule).Allowed setting.limits last := trivial
    refine ⟨acts ++ [.closeRule rule], run.append (.single closing), ?_, logged⟩
    intro act member
    rcases List.mem_append.mp member with member | member
    · exact kinds act member
    · exact List.mem_singleton.mp member ▸ closes

theorem compatible_actsAs :
    Compatible setting setting.limits fun step _ => ActsAs setting anyAct step where
  pure := actsAs_pure
  unfinished := actsAs_throw (by simp)
  fail := fun fault inner _ _ => acted_fail (by rcases inner with rfl | rfl <;> simp [Act.Allowed])
  bind := ActsAs.bind
  rescue := ActsAs.rescue
  inside := fun rule _ _ inner => actsAs_inside rule trivial trivial trivial inner
  alternative := fun rule index depth =>
    (actsAs_decide fun _ => .inl ⟨rule, index, depth, rfl⟩).any
  enter := actsAs_enter
  exit := actsAs_exit
  attach := actsAs_attach
  token := actsAs_token
  choose := fun rule => (actsAs_choose rule).any
  wantsMore := fun element count => (actsAs_wantsMore element count).any
  recover := fun diagnostic => (actsAs_recover diagnostic).any

end Parser

end StrongLL
