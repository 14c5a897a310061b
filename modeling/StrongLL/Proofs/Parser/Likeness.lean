import StrongLL.Proofs.Parser.Acts
import StrongLL.Proofs.Parser.Congruence

/-!
# Two parsers in step

Two parsers that are alike do the same things and stay alike, where the things that their
states may differ in do not tell. How the scanners, the listeners, the logs and the traces of
two parsers are compared is left open; all else has to be the same.
-/

namespace StrongLL

/-- How the states of two parsers are compared. -/
structure Likeness (σ τ : Type) where
  scanners : Scanner → Scanner → Prop
  listeners : σ → τ → Prop
  logs : Log → Log → Prop
  traces : Array TraceEvent → Array TraceEvent → Prop
  /-- Events that two parsers record at the same time. -/
  events : TraceEvent → TraceEvent → Prop

namespace Parser

variable {σ τ α β γ δ : Type}

/-- Two parsers that only differ in what a likeness leaves open. -/
structure Alike (likeness : Likeness σ τ) (left : Parser σ) (right : Parser τ) : Prop where
  scanner : likeness.scanners left.scanner right.scanner
  buffer : left.buffer = right.buffer
  exhausted : left.exhausted = right.exhausted
  listener : likeness.listeners left.listener right.listener
  log : likeness.logs left.log right.log
  recovery : left.recovery = right.recovery
  depth : left.depth = right.depth
  executed : left.executed = right.executed
  trace : likeness.traces left.trace right.trace

/-- Outcomes with related values, or with the same halt. -/
inductive Matched (same : α → β → Prop) : Except Halt α → Except Halt β → Prop where
  | ok {value : α} {value' : β} (related : same value value') : Matched same (.ok value) (.ok value')
  | error (halt : Halt) : Matched same (.error halt) (.error halt)

/-- From parsers that are alike two steps come to matching outcomes, and leave the parsers
alike. -/
def InStep (likeness : Likeness σ τ) (same : α → β → Prop) (step : Parse σ α)
    (step' : Parse τ β) : Prop :=
  ∀ left right, Alike likeness left right →
    Matched same (step.run.run left).1 (step'.run.run right).1 ∧
      Alike likeness (step.run.run left).2 (step'.run.run right).2

section

variable {likeness : Likeness σ τ} {same : α → β → Prop} {same' : γ → δ → Prop}

theorem inStep_pure {value : α} {value' : β} (related : same value value') :
    InStep likeness same (pure value) (pure value') :=
  fun _ _ alike => ⟨.ok related, alike⟩

theorem inStep_throw (halt : Halt) :
    InStep likeness same (throw halt : Parse σ α) (throw halt : Parse τ β) :=
  fun _ _ alike => ⟨.error halt, alike⟩

theorem inStep_get : InStep likeness (Alike likeness) get get :=
  fun _ _ alike => ⟨.ok alike, alike⟩

theorem inStep_set {left : Parser σ} {right : Parser τ} (alike : Alike likeness left right) :
    InStep likeness Eq (set left : Parse σ PUnit) (set right) :=
  fun _ _ _ => ⟨.ok rfl, alike⟩

theorem inStep_modify {change : Parser σ → Parser σ} {change' : Parser τ → Parser τ}
    (changes : ∀ left right, Alike likeness left right →
      Alike likeness (change left) (change' right)) :
    InStep likeness Eq (modify change : Parse σ PUnit) (modify change') :=
  fun left right alike => ⟨.ok rfl, changes left right alike⟩

theorem inStep_record {event event' : TraceEvent}
    (pushes : ∀ left right, likeness.traces left right →
      likeness.traces (left.push event) (right.push event')) :
    InStep likeness Eq (record event) (record event') :=
  inStep_modify fun _ _ alike => { alike with trace := pushes _ _ alike.trace }

theorem InStep.bind {step : Parse σ α} {step' : Parse τ β} {next : α → Parse σ γ}
    {next' : β → Parse τ δ} (first : InStep likeness same step step')
    (more : ∀ value value', same value value' →
      InStep likeness same' (next value) (next' value')) :
    InStep likeness same' (step >>= next) (step' >>= next') := by
  intro left right alike
  have reached := first left right alike
  rw [bind_run, bind_run]
  generalize (step.run.run left : Except Halt α × Parser σ) = result at reached ⊢
  generalize (step'.run.run right : Except Halt β × Parser τ) = result' at reached ⊢
  obtain ⟨outcome, after⟩ := result
  obtain ⟨outcome', after'⟩ := result'
  obtain ⟨matched, still⟩ := reached
  cases matched with
  | ok related => exact more _ _ related after after' still
  | error halt => exact ⟨.error halt, still⟩

/-- Steps behind steps that come to the same. -/
theorem InStep.then {step : Parse σ α} {step' : Parse τ α} {next : α → Parse σ γ}
    {next' : α → Parse τ δ} (first : InStep likeness Eq step step')
    (more : ∀ value, InStep likeness same' (next value) (next' value)) :
    InStep likeness same' (step >>= next) (step' >>= next') :=
  first.bind fun value _ related => related ▸ more value

theorem InStep.attempt {step : Parse σ α} {step' : Parse τ β}
    (first : InStep likeness same step step') :
    InStep likeness (Matched same) (attempt step) (attempt step') :=
  fun left right alike => ⟨.ok (first left right alike).1, (first left right alike).2⟩

theorem InStep.discard {step : Parse σ α} {step' : Parse τ β}
    (first : InStep likeness same step step') :
    InStep likeness Eq (discard step) (discard step') := by
  change InStep likeness Eq (step >>= fun _ => pure ()) (step' >>= fun _ => pure ())
  exact first.bind fun _ _ _ => inStep_pure rfl

theorem InStep.rescue {step : Parse σ α} {step' : Parse τ β} {next : α → Parse σ γ}
    {next' : β → Parse τ δ} {handler : Diagnostic → Parse σ γ}
    {handler' : Diagnostic → Parse τ δ} (first : InStep likeness same step step')
    (more : ∀ value value', same value value' →
      InStep likeness same' (next value) (next' value'))
    (handled : ∀ diagnostic, InStep likeness same' (handler diagnostic) (handler' diagnostic)) :
    InStep likeness same' (rescue step next handler) (rescue step' next' handler') := by
  unfold Parser.rescue
  apply first.attempt.bind
  rintro _ _ (related | halt)
  · exact more _ _ related
  · cases halt with
    | mismatch diagnostic => exact handled diagnostic
    | abort => exact inStep_throw .abort
    | unfinished => exact inStep_throw .unfinished

end

/-! ## Reading -/

/-- What two parsers may differ in does not tell where they read tokens and report errors. -/
structure ReadsAlike (likeness : Likeness σ τ) (setting : Setting σ) (setting' : Setting τ) :
    Prop where
  vocabulary : setting'.grammar.vocabulary = setting.grammar.vocabulary
  limits : setting'.limits = setting.limits
  scanners : ∀ left right, likeness.scanners left right →
    likeness.scanners (left.next setting.grammar.vocabulary).1
        (right.next setting.grammar.vocabulary).1 ∧
      (left.next setting.grammar.vocabulary).2 = (right.next setting.grammar.vocabulary).2
  positions : ∀ left right, likeness.scanners left right → left.position = right.position
  remaining : ∀ left right, likeness.scanners left right →
    left.cursor.remaining = right.cursor.remaining
  logs : ∀ left right diagnostic, likeness.logs left right →
    likeness.logs (left ++ [diagnostic]) (right ++ [diagnostic])
  full : ∀ left right, likeness.logs left right →
    ∀ limit, setting.limits.errors = some limit → (limit ≤ left.length ↔ limit ≤ right.length)
  traces : ∀ left right event event', likeness.traces left right →
    likeness.events event event' → likeness.traces (left.push event) (right.push event')
  error : ∀ diagnostic suppressed,
    likeness.events (.error diagnostic suppressed) (.error diagnostic suppressed)
  consume : ∀ token, likeness.events (.consume token) (.consume token)
  skip : ∀ token, likeness.events (.skip token) (.skip token)

section

variable {likeness : Likeness σ τ} {setting : Setting σ} {setting' : Setting τ}
  (reads : ReadsAlike likeness setting setting') {same : α → β → Prop}

include reads

theorem Alike.position {left : Parser σ} {right : Parser τ} (alike : Alike likeness left right) :
    left.position = right.position := by
  unfold Parser.position
  rw [alike.buffer]
  cases right.buffer with
  | nil => exact reads.positions _ _ alike.scanner
  | cons token rest => rfl

theorem Alike.note {left : Parser σ} {right : Parser τ} (alike : Alike likeness left right)
    (diagnostic : Diagnostic) : Alike likeness (left.note diagnostic) (right.note diagnostic) := by
  unfold Parser.note
  rw [alike.recovery]
  refine { alike with log := ?_, trace := ?_, recovery := rfl }
  · dsimp only
    split
    · exact alike.log
    · exact reads.logs _ _ diagnostic alike.log
  · exact reads.traces _ _ _ _ alike.trace (reads.error diagnostic _)

theorem Alike.isLogFull {left : Parser σ} {right : Parser τ} (alike : Alike likeness left right) :
    left.isLogFull setting.limits = right.isLogFull setting.limits := by
  unfold Parser.isLogFull
  split
  · rename_i limit isLimit
    exact decide_eq_decide.mpr (reads.full _ _ alike.log limit isLimit)
  · rfl

theorem inStep_report (diagnostic : Diagnostic) (recovering : Bool) :
    InStep likeness Eq (report setting diagnostic recovering)
      (report setting' diagnostic recovering) := by
  have ends : InStep likeness Eq (do
        if !diagnostic.isRecoverable || (← get).isLogFull setting.limits then throw .abort :
          Parse σ PUnit)
      (do if !diagnostic.isRecoverable || (← get).isLogFull setting.limits then throw .abort) := by
    apply inStep_get.bind
    intro left right alike
    rw [alike.isLogFull reads]
    split
    · exact inStep_throw .abort
    · exact inStep_pure rfl
  unfold report
  rw [reads.limits]
  apply (inStep_modify fun _ _ alike => alike.note reads diagnostic).then
  intro _
  cases recovering with
  | true =>
      have opens : InStep likeness Eq
          (modify fun parser => { parser with recovery := recoveryTokens } : Parse σ PUnit)
          (modify fun parser => { parser with recovery := recoveryTokens }) :=
        inStep_modify fun _ _ alike => { alike with recovery := rfl }
      exact opens.then fun _ => ends
  | false => exact ends

theorem inStep_fail (fault : Fault) :
    InStep likeness same (fail fault : Parse σ α) (fail fault : Parse τ β) := by
  unfold fail
  apply inStep_get.bind
  intro left right alike
  rw [alike.position reads]
  exact (inStep_modify fun _ _ alike => alike.note reads _).then fun _ => inStep_throw .abort

theorem inStep_fetch (index fuel : Nat) :
    InStep likeness Eq (fetch setting index fuel) (fetch setting' index fuel) := by
  induction fuel with
  | zero => exact inStep_throw .unfinished
  | succ fuel ih =>
      unfold fetch
      apply inStep_get.bind
      intro left right alike
      rw [reads.vocabulary, alike.buffer, alike.exhausted]
      split
      · exact inStep_pure rfl
      · obtain ⟨scanners, answers⟩ := reads.scanners _ _ alike.scanner
        generalize left.scanner.next setting.grammar.vocabulary = next at scanners answers ⊢
        generalize right.scanner.next setting.grammar.vocabulary = next' at scanners answers ⊢
        obtain ⟨scanner, answer⟩ := next
        obtain ⟨scanner', answer'⟩ := next'
        obtain rfl : answer = answer' := answers
        cases answer with
        | ok given =>
            cases given with
            | some token =>
                refine InStep.then (inStep_set ?_) fun _ => ih
                exact { alike with scanner := scanners, buffer := rfl, exhausted := rfl }
            | none =>
                refine InStep.then (inStep_set ?_) fun _ => ih
                exact { alike with scanner := scanners, buffer := rfl, exhausted := rfl }
        | error diagnostic =>
            refine InStep.then (inStep_set ?_) fun _ => ?_
            · exact { alike with scanner := scanners, buffer := rfl, exhausted := rfl }
            · exact (inStep_report reads diagnostic true).then fun _ => ih

theorem inStep_peek (index : Nat) :
    InStep likeness Eq (peek setting index) (peek setting' index) := by
  unfold peek
  apply inStep_get.bind
  intro left right alike
  rw [reads.remaining _ _ alike.scanner]
  apply (inStep_fetch reads index _).then
  intro _
  apply inStep_get.bind
  intro left right alike
  rw [alike.buffer]
  exact inStep_pure rfl

theorem inStep_lookAhead (depth index : Nat) :
    InStep likeness Eq (lookAhead setting depth index) (lookAhead setting' depth index) := by
  induction depth generalizing index with
  | zero => exact inStep_pure rfl
  | succ depth ih =>
      unfold lookAhead
      apply (inStep_peek reads index).then
      intro found
      cases found with
      | none => exact inStep_pure rfl
      | some token => exact (ih (index + 1)).then fun _ => inStep_pure rfl

theorem inStep_spend : InStep likeness Eq (spend setting) (spend setting') := by
  unfold spend
  apply inStep_get.bind
  intro left right alike
  rw [reads.limits, alike.executed]
  have counts : InStep likeness Eq
      (modify fun parser => { parser with executed := right.executed + 1 } : Parse σ PUnit)
      (modify fun parser => { parser with executed := right.executed + 1 }) :=
    inStep_modify fun _ _ alike => { alike with executed := rfl }
  dsimp only
  split
  · have fails : InStep likeness Eq (fail .executionLimit : Parse σ PUnit) (fail .executionLimit) :=
      inStep_fail reads .executionLimit
    exact fails.then fun _ => counts
  · exact counts

theorem inStep_consume : InStep likeness Eq (consume setting) (consume setting') := by
  unfold consume
  apply (inStep_spend reads).then
  intro _
  apply inStep_get.bind
  intro left right alike
  rw [alike.buffer]
  cases right.buffer with
  | nil => exact inStep_fail reads .nothingBuffered
  | cons token rest =>
      have takes : InStep likeness Eq
          (modify fun parser =>
            { parser with buffer := rest, recovery := parser.recovery - 1 } : Parse σ PUnit)
          (modify fun parser => { parser with buffer := rest, recovery := parser.recovery - 1 }) :=
        inStep_modify fun _ _ alike =>
          { alike with buffer := rfl, recovery := congrArg (· - 1) alike.recovery }
      apply takes.then
      intro _
      apply (inStep_record fun _ _ traces => reads.traces _ _ _ _ traces (reads.consume token)).then
      intro _
      exact inStep_pure rfl

theorem inStep_skip : InStep likeness Eq (skip setting) (skip setting') := by
  unfold skip
  apply (inStep_peek reads 0).then
  intro found
  cases found with
  | none => exact inStep_pure rfl
  | some token =>
      apply (inStep_spend reads).then
      intro _
      have drops : InStep likeness Eq
          (modify fun parser => { parser with buffer := parser.buffer.tail } : Parse σ PUnit)
          (modify fun parser => { parser with buffer := parser.buffer.tail }) :=
        inStep_modify fun _ _ alike =>
          { alike with buffer := congrArg List.tail alike.buffer }
      apply drops.then
      intro _
      apply (inStep_record fun _ _ traces => reads.traces _ _ _ _ traces (reads.skip token)).then
      intro _
      exact inStep_pure rfl

theorem inStep_recover (diagnostic : Diagnostic) :
    InStep likeness Eq (recover setting diagnostic) (recover setting' diagnostic) := by
  unfold recover
  apply (inStep_report reads diagnostic true).then
  intro _
  apply (inStep_skip reads).then
  intro skipped
  cases skipped with
  | true => exact inStep_pure rfl
  | false => exact inStep_throw .abort

theorem Alike.prematureEnd {left : Parser σ} {right : Parser τ}
    (alike : Alike likeness left right) : left.prematureEnd = right.prematureEnd := by
  unfold Parser.prematureEnd
  rw [reads.positions _ _ alike.scanner]

theorem Alike.unexpected {left : Parser σ} {right : Parser τ} (alike : Alike likeness left right)
    (index : Nat) (expected : List String) :
    left.unexpected index expected = right.unexpected index expected := by
  unfold Parser.unexpected
  rw [alike.buffer, alike.prematureEnd reads]

theorem Alike.mismatch {left : Parser σ} {right : Parser τ} (alike : Alike likeness left right)
    (vocabulary : Vocabulary) (decision : Decision) (input : Terminals) :
    left.mismatch vocabulary decision input = right.mismatch vocabulary decision input := by
  unfold Parser.mismatch
  simp only [alike.prematureEnd reads, alike.unexpected reads]

end

end Parser

end StrongLL
