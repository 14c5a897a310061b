import StrongLL.Proofs.Parser.Limits

/-!
# Parses that log nothing

How many errors may be logged is looked at where one has just been logged. To a parse that
logs none it does not matter.
-/

namespace StrongLL

/-- The same fuel, and another number of errors that may be logged. -/
abbrev Limits.permitting (limits : Limits) (errors : Option Nat) : Limits :=
  { limits with errors }

namespace Parser

variable {σ α β : Type} {setting : Setting σ} {errors : Option Nat} {before : Parser σ}

/-- The setting with another number of errors that may be logged. -/
abbrev permitting (setting : Setting σ) (errors : Option Nat) : Setting σ :=
  { setting with limits := setting.limits.permitting errors }

/-! ## Steps that log nothing -/

/-- What is logged stays logged. -/
theorem Extending.unlogged {step : Parse σ α} (extending : Extending step)
    (warned : before.Warned) (empty : (step.run.run before).2.log = []) : before.log = [] :=
  List.prefix_nil.mp (empty ▸ (extending before warned).log)

theorem Extending.warned {step : Parse σ α} (extending : Extending step)
    (warned : before.Warned) : (step.run.run before).2.Warned :=
  (extending before warned).warned warned

/-- If a step logs nothing, another one does the same. -/
def EchoedFrom (before : Parser σ) (step step' : Parse σ α) : Prop :=
  (step.run.run before).2.log = [] → step'.run.run before = step.run.run before

/-- If a step logs nothing, then wherever it begins another one does the same. -/
structure Echoed (step step' : Parse σ α) : Prop where
  extending : Extending step
  same : ∀ before, before.Warned → EchoedFrom before step step'

theorem echoed_same {step : Parse σ α} (extending : Extending step) : Echoed step step :=
  ⟨extending, fun _ _ _ => rfl⟩

theorem EchoedFrom.bind {step step' : Parse σ α} {next next' : α → Parse σ β}
    (first : EchoedFrom before step step') (extending : Extending step)
    (warned : before.Warned) (later : ∀ value, Extending (next value))
    (more : ∀ value middle, step.run.run before = (.ok value, middle) → middle.Warned →
      EchoedFrom middle (next value) (next' value)) :
    EchoedFrom before (step >>= next) (step' >>= next') := by
  intro empty
  have still := extending.warned warned
  unfold EchoedFrom at first
  rw [bind_run] at empty
  rw [bind_run, bind_run]
  generalize (step.run.run before : Except Halt α × Parser σ) = result at empty still first more ⊢
  obtain ⟨outcome, middle⟩ := result
  cases outcome with
  | error halt => rw [first empty]
  | ok value =>
      rw [first ((later value).unlogged still empty)]
      exact more value middle rfl still empty

theorem echoedFrom_get {steps steps' : Parser σ → Parse σ α}
    (echoed : EchoedFrom before (steps before) (steps' before)) :
    EchoedFrom before (get >>= steps) (get >>= steps') :=
  echoed

theorem echoedFrom_set {next : Parser σ} {step step' : Parse σ α}
    (echoed : EchoedFrom next step step') :
    EchoedFrom before (do set next; step) (do set next; step') :=
  echoed

theorem Echoed.bind {step step' : Parse σ α} {next next' : α → Parse σ β}
    (first : Echoed step step') (more : ∀ value, Echoed (next value) (next' value)) :
    Echoed (step >>= next) (step' >>= next') where
  extending := first.extending.bind fun value => (more value).extending
  same := fun before warned => (first.same before warned).bind first.extending warned
    (fun value => (more value).extending) fun value middle _ still => (more value).same middle still

theorem Echoed.attempt {step step' : Parse σ α} (first : Echoed step step') :
    Echoed (attempt step) (attempt step') where
  extending := first.extending
  same := by
    intro before warned empty
    have same := first.same before warned empty
    change (Except.ok (step'.run.run before).1, (step'.run.run before).2) =
      (Except.ok (step.run.run before).1, (step.run.run before).2)
    rw [same]

theorem Echoed.rescue {step step' : Parse σ α} {next next' : α → Parse σ β}
    {handler handler' : Diagnostic → Parse σ β} (first : Echoed step step')
    (more : ∀ value, Echoed (next value) (next' value))
    (handled : ∀ diagnostic, Echoed (handler diagnostic) (handler' diagnostic)) :
    Echoed (rescue step next handler) (rescue step' next' handler') := by
  unfold Parser.rescue
  apply first.attempt.bind
  intro outcome
  cases outcome with
  | ok value => exact more value
  | error halt =>
      cases halt with
      | mismatch diagnostic => exact handled diagnostic
      | abort => exact echoed_same (extending_throw _)
      | unfinished => exact echoed_same (extending_throw _)

theorem Echoed.discard {step step' : Parse σ α} (first : Echoed step step') :
    Echoed (discard step) (discard step') :=
  first.bind fun _ => echoed_same (extending_pure ())

/-! ## Steps that report errors -/

/-- Whatever comes behind a step that leaves something in the log, it stays there. -/
theorem Ensures.logged_then {step : Parse σ α} {next : α → Parse σ β}
    (logs : Ensures step before fun _ middle => middle.log ≠ [])
    (later : ∀ value, Extending (next value)) :
    Ensures (step >>= next) before fun _ after => after.log ≠ [] := by
  apply logs.bind
  · intro value middle logged
    apply (later value middle fun _ => logged).mono
    intro _ after grows empty
    exact logged (List.prefix_nil.mp (empty ▸ grows.log))
  · exact fun _ _ logged => logged

theorem logged_report (warned : before.Warned) (diagnostic : Diagnostic) (recovering : Bool) :
    Ensures (report setting diagnostic recovering) before fun _ after => after.log ≠ [] := by
  apply (ensures_report_eq diagnostic recovering).mono
  rintro _ _ ⟨_, rfl⟩
  split
  · exact log_stumble diagnostic warned
  · exact log_note diagnostic warned

/-- A mismatch leaves something in the log. -/
theorem logged_recover (warned : before.Warned) (diagnostic : Diagnostic) :
    Ensures (recover setting diagnostic) before fun _ after => after.log ≠ [] := by
  unfold recover
  apply (logged_report warned diagnostic true).logged_then
  intro _
  apply extending_skip.bind
  intro skipped
  cases skipped with
  | true => exact extending_pure ()
  | false => exact extending_throw .abort

theorem Ensures.echoedFrom {step step' : Parse σ α}
    (logs : Ensures step before fun _ after => after.log ≠ []) : EchoedFrom before step step' :=
  fun empty => absurd empty logs

theorem echoedFrom_fetch (warned : before.Warned) (index fuel : Nat) :
    EchoedFrom before (fetch setting index fuel) (fetch (permitting setting errors) index fuel) := by
  induction fuel generalizing before with
  | zero => exact fun _ => rfl
  | succ fuel ih =>
      unfold fetch
      apply echoedFrom_get
      split
      · exact fun _ => rfl
      · dsimp only
        generalize before.scanner.next setting.grammar.vocabulary = next
        obtain ⟨scanner, answer⟩ := next
        cases answer with
        | ok given =>
            cases given with
            | some token =>
                apply echoedFrom_set
                exact ih warned
            | none =>
                apply echoedFrom_set
                exact ih warned
        | error diagnostic =>
            have still : Parser.Warned { before with scanner } := warned
            have reports : Ensures (do report setting diagnostic true; fetch setting index fuel)
                { before with scanner } fun _ after => after.log ≠ [] :=
              Ensures.logged_then (logged_report still diagnostic true)
                fun _ => (actsAs_fetch index fuel).extending
            apply echoedFrom_set
            exact reports.echoedFrom

theorem echoed_peek (index : Nat) :
    Echoed (peek setting index) (peek (permitting setting errors) index) := by
  unfold peek
  apply (echoed_same extending_get).bind
  intro parser
  have fetches : Echoed (fetch setting index (parser.scanner.cursor.remaining + 3))
      (fetch (permitting setting errors) index (parser.scanner.cursor.remaining + 3)) :=
    ⟨(actsAs_fetch index _).extending, fun _ warned => echoedFrom_fetch warned index _⟩
  exact fetches.bind fun _ => echoed_same (extending_get.bind fun _ => extending_pure _)

theorem echoed_lookAhead (depth index : Nat) :
    Echoed (lookAhead setting depth index) (lookAhead (permitting setting errors) depth index) := by
  induction depth generalizing index with
  | zero => exact echoed_same (extending_pure [])
  | succ depth ih =>
      unfold lookAhead
      apply (echoed_peek index).bind
      intro found
      cases found with
      | none => exact echoed_same (extending_pure _)
      | some token => exact (ih (index + 1)).bind fun _ => echoed_same (extending_pure _)

/-- What a listener refuses is logged. -/
theorem echoedFrom_abide (warned : before.Warned) (answer : Except Diagnostic α) (otherwise : α) :
    EchoedFrom before (abide setting answer otherwise)
      (abide (permitting setting errors) answer otherwise) := by
  cases answer with
  | ok value => exact fun _ => rfl
  | error refusal =>
      have reports : Ensures (abide setting (.error refusal) otherwise) before
          fun _ after => after.log ≠ [] :=
        (logged_report warned refusal false).logged_then fun _ => extending_pure otherwise
      exact reports.echoedFrom

theorem echoed_tell (call : σ → σ × Except Diagnostic α) (otherwise : α)
    (extending : Extending (tell setting call otherwise)) :
    Echoed (tell setting call otherwise) (tell (permitting setting errors) call otherwise) where
  extending := extending
  same := by
    intro before warned
    have told : Parser.Warned { before with listener := (call before.listener).1 } := warned
    exact echoedFrom_abide told (call before.listener).2 otherwise

theorem echoed_attach (parent : Branch) (kept : Option Node) :
    Echoed (attach setting parent kept) (attach (permitting setting errors) parent kept) where
  extending := (actsAs_attach parent kept).extending
  same := by
    intro before warned
    cases kept with
    | none => exact fun _ => rfl
    | some node =>
        let told := setting.listener.child parent node before.listener
        have still : Parser.Warned { before with listener := told.1 } := warned
        have answers : EchoedFrom { before with listener := told.1 }
            (abide setting (told.2.2.map fun _ => told.2.1) told.2.1)
            (abide (permitting setting errors) (told.2.2.map fun _ => told.2.1) told.2.1) :=
          echoedFrom_abide still _ _
        unfold EchoedFrom
        rw [attach_run_eq, attach_run_eq]
        exact answers

/-! ## The descent -/

theorem echoed_enter (node : Node) :
    Echoed (enter setting node) (enter (permitting setting errors) node) :=
  echoed_tell _ _ (actsAs_enter node).extending

theorem echoed_exit (node : Node) :
    Echoed (exit setting node) (exit (permitting setting errors) node) :=
  echoed_tell _ _ (actsAs_exit node).extending

theorem echoed_token (id : TokenId) (parent : Branch) :
    Echoed (token setting id parent) (token (permitting setting errors) id parent) := by
  unfold token
  apply (echoed_peek 0).bind
  intro found
  cases found with
  | none => exact echoed_same (extending_get.bind fun _ => extending_throw _)
  | some next =>
      have takes : Echoed (consume setting) (consume (permitting setting errors)) :=
        echoed_same extending_consume
      have attaches (leaf : Node) :
          Echoed (do enter setting leaf; attach setting parent (← exit setting leaf))
            (do
              enter (permitting setting errors) leaf
              attach (permitting setting errors) parent
                (← exit (permitting setting errors) leaf)) :=
        (echoed_enter leaf).bind fun _ => (echoed_exit leaf).bind fun kept =>
          echoed_attach parent kept
      dsimp only [permitting]
      split
      · exact (echoed_same extending_get).bind fun _ =>
          (echoed_same (extending_throw _)).bind fun _ => takes.bind fun _ => attaches _
      · exact takes.bind fun _ => attaches _

theorem echoed_choose (rule : ResolvedRule) :
    Echoed (choose setting rule) (choose (permitting setting errors) rule) := by
  unfold choose
  cases rule.decision with
  | none => exact echoed_same (extending_pure (0, 0))
  | some decision =>
      apply (echoed_lookAhead decision.depth 0).bind
      intro input
      cases decision.select input with
      | some index => exact echoed_same (extending_pure _)
      | none => exact echoed_same (extending_get.bind fun _ => extending_throw _)

theorem echoed_wantsMore (element : ResolvedElement) (count : Nat) :
    Echoed (wantsMore setting element count)
      (wantsMore (permitting setting errors) element count) := by
  have ends (again : Bool) : Extending (recordLoop element.symbol count again : Parse σ Bool) :=
    (@actsAs_recordLoop σ setting element.symbol count again).extending
  unfold wantsMore
  split
  · exact echoed_same (extending_pure false)
  · split
    · exact echoed_same (extending_pure true)
    · cases element.decision with
      | none => exact echoed_same ((extending_pure false).bind ends)
      | some decision =>
          exact (echoed_lookAhead decision.depth 0).bind fun _ =>
            echoed_same ((extending_pure _).bind ends)

theorem echoed_recover (diagnostic : Diagnostic) :
    Echoed (recover setting diagnostic) (recover (permitting setting errors) diagnostic) where
  extending := (actsAs_recover diagnostic).extending
  same := fun _ warned => (logged_recover warned diagnostic).echoedFrom

theorem echoed_inside (rule : RuleId) {step step' : Parse σ α} (inner : Echoed step step') :
    Echoed (inside setting rule step) (inside (permitting setting errors) rule step') where
  extending := inner.extending.inside rule
  same := by
    intro before warned empty
    have opened : Parser.Warned ((Act.openRule rule).apply setting before) := warned
    rw [inside_run] at empty
    rw [inside_run, inside_run]
    dsimp only at empty ⊢
    split at empty
    · rename_i exceeded
      rw [if_pos exceeded, if_pos exceeded]
      rfl
    · rename_i spare
      rw [if_neg spare, if_neg spare]
      have same : step'.run.run ((Act.openRule rule).apply setting before) =
          step.run.run ((Act.openRule rule).apply setting before) :=
        inner.same _ opened empty
      rw [← same]
      rfl

theorem compatible_echoed :
    Compatible setting (setting.limits.permitting errors) fun step step' => Echoed step step' where
  pure := fun value => echoed_same (extending_pure value)
  unfinished := echoed_same (extending_throw .unfinished)
  fail := fun fault inner =>
    echoed_same ((@compatible_actsAs σ setting).fail fault inner).extending
  bind := Echoed.bind
  rescue := Echoed.rescue
  inside := fun rule _ _ inner => echoed_inside rule inner
  alternative := fun rule index depth => echoed_same
    ((@compatible_actsAs σ setting).alternative rule index depth).extending
  enter := echoed_enter
  exit := echoed_exit
  attach := echoed_attach
  token := echoed_token
  choose := echoed_choose
  wantsMore := echoed_wantsMore
  recover := echoed_recover

/-! ## Whole parses -/

theorem extending_checkEnd : Extending (checkEnd setting) := by
  intro before warned
  apply (acted_checkEnd warned).mono
  rintro _ after ⟨acts, run, _⟩
  exact run.grows

theorem echoed_checkEnd :
    Echoed (checkEnd setting) (checkEnd (permitting setting errors)) where
  extending := extending_checkEnd
  same := by
    intro before warned
    unfold checkEnd
    apply ((echoed_peek 0).same before warned).bind (actsAs_peek 0).extending warned
    · rintro (_ | token)
      · exact extending_pure ()
      · exact extending_report _
    · rintro (_ | token) middle _ still
      · exact fun _ => rfl
      · exact (logged_report still _ true).echoedFrom

theorem echoed_root (steps fuel : Nat) :
    Echoed (root setting steps fuel) (root (permitting setting errors) steps fuel) := by
  induction fuel with
  | zero => exact echoed_same (extending_throw .unfinished)
  | succ fuel ih =>
      rw [root_succ, root_succ]
      apply ((compatible_echoed.relatedAt steps).rule setting.grammar.start).rescue
      · exact fun node => echoed_checkEnd.attempt.discard.bind fun _ =>
          echoed_same (extending_pure node)
      · exact fun diagnostic => (echoed_recover diagnostic).bind fun _ => ih

/-- Where a parse succeeds, so it does with another limit on errors. -/
theorem parse_permitting {parser : Parser σ} {tree : Node}
    (parsed : (parse setting parser).2 = .parsed (some tree)) :
    parse (permitting setting errors) parser = parse setting parser := by
  obtain ⟨last, ran, empty, _⟩ := parse_eq_parsed_iff.mp (Prod.ext rfl parsed)
  have warned : parser.prepare.Warned := fun recovering => absurd recovering (Nat.lt_irrefl 0)
  have same := (@echoed_root _ _ errors _ _).same parser.prepare warned
    ((congrArg (·.2.log) ran).trans empty)
  unfold parse
  dsimp only [permitting]
  rw [same]

end Parser

end StrongLL
