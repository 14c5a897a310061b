import StrongLL.Proofs.Parser.CutShort

/-!
# The descent under limits

Each step of the descent under limits stands to the same step without them as a run that may
be cut short. Limits are looked at in three places: where an error is reported, where a token
is counted and where a production is entered.
-/

namespace StrongLL

namespace Parser

variable {σ α β : Type} {setting : Setting σ} {before middle after full : Parser σ}

/-! ## Reporting -/

theorem report_run (diagnostic : Diagnostic) (recovering : Bool) :
    (report setting diagnostic recovering).run.run before =
      let after := if recovering then stumble diagnostic before else before.note diagnostic
      (if !diagnostic.isRecoverable || after.isLogFull setting.limits then .error .abort
        else .ok (), after) := by
  have ends (last : Parser σ) : ((do
      let parser ← get
      if !diagnostic.isRecoverable || parser.isLogFull setting.limits then throw .abort
      else pure () : Parse σ Unit)).run.run last =
        (if !diagnostic.isRecoverable || last.isLogFull setting.limits then .error .abort
          else .ok (), last) := by
    change ((if !diagnostic.isRecoverable || last.isLogFull setting.limits then throw .abort
      else pure () : Parse σ Unit)).run.run last = _
    split
    · rfl
    · rfl
  cases recovering with
  | true => exact ends (stumble diagnostic before)
  | false => exact ends (before.note diagnostic)

theorem length_log_note (diagnostic : Diagnostic) :
    (before.note diagnostic).log.length ≤ before.log.length + 1 := by
  simp only [note]
  split <;> simp

theorem Ready.fits_note {limits : Limits} (ready : Ready limits before) (diagnostic : Diagnostic) :
    Fits limits (before.note diagnostic).log :=
  fun limit isLimit => Nat.le_trans (length_log_note diagnostic) (ready.room limit isLimit)

/-- A log that has reached its limit and is not empty is as long as it may be. -/
theorem length_of_isLogFull {limits : Limits} (fits : Fits limits before.log)
    (logged : before.log ≠ []) (isFull : before.isLogFull limits = true) :
    ∃ limit, limits.errors = some limit ∧ before.log.length = max limit 1 := by
  unfold isLogFull at isFull
  split at isFull
  · rename_i limit isLimit
    have atLeast : limit ≤ before.log.length := of_decide_eq_true isFull
    have positive := List.length_pos_iff.mpr logged
    exact ⟨limit, isLimit, Nat.le_antisymm (fits limit isLimit) (Nat.max_le.mpr ⟨atLeast, positive⟩)⟩
  · cases isFull

theorem ready_of_not_isLogFull {limits : Limits} (logged : before.log ≠ [])
    (notFull : before.isLogFull limits = false) : Ready limits before := by
  refine ⟨fun _ => logged, fun limit isLimit => ?_⟩
  simp only [isLogFull, isLimit, decide_eq_false_iff_not, Nat.not_le] at notFull
  exact Nat.lt_of_lt_of_le notFull (Nat.le_max_left _ _)

/-- Under limits a report ends the parse where the log is full. Otherwise it is the same. -/
theorem mirrors_report (ready : Ready setting.limits before) (origin : Parser σ)
    (diagnostic : Diagnostic) (recovering : Bool) :
    Mirrors setting origin before (report setting diagnostic recovering)
      (report (free setting) diagnostic recovering) := by
  unfold Mirrors
  rw [report_run, report_run]
  have logged : (if recovering then stumble diagnostic before
      else before.note diagnostic).log ≠ [] := by
    split
    · exact log_stumble diagnostic ready.warned
    · exact log_note diagnostic ready.warned
  have fits : Fits setting.limits (if recovering then stumble diagnostic before
      else before.note diagnostic).log := by
    split
    · exact ready.fits_note diagnostic
    · exact ready.fits_note diagnostic
  generalize (if recovering then stumble diagnostic before
    else before.note diagnostic) = after at logged fits ⊢
  cases diagnostic.isRecoverable with
  | false => exact .same fits fun goesOn => absurd rfl goesOn
  | true =>
      cases isFull : after.isLogFull setting.limits with
      | false =>
          simp only [isFull]
          exact (ready_of_not_isLogFull logged isFull).follows _
      | true =>
          simp only [isFull]
          obtain ⟨limit, isLimit, length⟩ := length_of_isLogFull fits logged isFull
          exact .cut ⟨List.prefix_refl _, fits, fun _ => logged,
            .errors isLimit length (List.prefix_refl _)⟩

/-! ## Steps under limits -/

theorem tracks_fail {fault : Fault} (inner : fault = .unknownRule ∨ fault = .noSuchAlternative) :
    Tracks setting (fail fault : Parse σ α) (fail fault) where
  acts := compatible_actsAs.fail fault inner
  extending := ((@compatible_actsAs σ (free setting)).fail fault inner).extending
  mirrors := fun _ ready => .same (ready.fits_note _) fun goesOn => absurd rfl goesOn

theorem tracks_record {event : TraceEvent}
    (isDecision : ∀ (setting : Setting σ) (parser : Parser σ),
      (Act.decide event).Allowed setting.limits parser) :
    Tracks setting (record event : Parse σ Unit) (record event) where
  acts := (actsAs_decide (isDecision setting)).any
  extending := (actsAs_decide (isDecision setting)).extending
  mirrors := by
    intro before ready
    have still : Ready setting.limits { before with trace := before.trace.push event } :=
      ready.keep rfl (Nat.le_refl _)
    exact still.follows _

/-- Fetching a token is an act, or another step of a row. -/
theorem mirrors_fetch (ready : Ready setting.limits before) (index fuel : Nat) :
    Mirrors setting before before (fetch setting index fuel) (fetch (free setting) index fuel) := by
  induction fuel generalizing before with
  | zero => exact ready.follows _
  | succ fuel ih =>
      unfold fetch
      apply mirrors_get
      split
      · exact ready.follows _
      · rename_i missing
        simp only [Bool.or_eq_true, decide_eq_true_eq, not_or, Bool.not_eq_true] at missing
        have scan : Run setting before [.scan] (scanned setting.grammar.vocabulary before) :=
          .single missing.2
        unfold scanned at scan
        dsimp only [free] at scan ⊢
        generalize before.scanner.next setting.grammar.vocabulary = next at scan ⊢
        obtain ⟨scanner, answer⟩ := next
        cases answer with
        | ok given =>
            cases given with
            | some token =>
                apply mirrors_set
                refine Mirrors.behind scan (ih ?_)
                exact ready.keep rfl (Nat.le_refl _)
            | none =>
                apply mirrors_set
                refine Mirrors.behind scan (ih ?_)
                exact ready.keep rfl (Nat.le_refl _)
        | error diagnostic =>
            have still : Ready setting.limits { before with scanner } :=
              ready.keep rfl (Nat.le_refl _)
            have acted : Ensures (report setting diagnostic true) { before with scanner }
                fun _ middle => (∃ acts, Run setting before acts middle) ∧ True := by
              apply (ensures_report_eq diagnostic true).mono
              rintro _ middle ⟨_, rfl⟩
              exact ⟨⟨_, scan⟩, trivial⟩
            apply mirrors_set
            apply mirrors_bind acted (mirrors_report still before diagnostic true)
            · exact fun _ middle reported _ => ih reported
            · exact fun _ => (@actsAs_fetch σ (free setting) index fuel).extending

theorem tracks_fetch (index fuel : Nat) :
    Tracks setting (fetch setting index fuel) (fetch (free setting) index fuel) where
  acts := (actsAs_fetch index fuel).any
  extending := (@actsAs_fetch σ (free setting) index fuel).extending
  mirrors := fun _ ready => mirrors_fetch ready index fuel

theorem tracks_peek (index : Nat) :
    Tracks setting (peek setting index) (peek (free setting) index) :=
  tracks_get.bind fun _ => (tracks_fetch index _).bind fun _ => tracks_get.bind fun _ =>
    tracks_pure _

theorem tracks_lookAhead (depth index : Nat) :
    Tracks setting (lookAhead setting depth index) (lookAhead (free setting) depth index) := by
  induction depth generalizing index with
  | zero => exact tracks_pure []
  | succ depth ih =>
      unfold lookAhead
      apply (tracks_peek index).bind
      intro found
      cases found with
      | none => exact tracks_pure _
      | some token => exact (ih (index + 1)).bind fun _ => tracks_pure _

theorem tracks_choose (rule : ResolvedRule) :
    Tracks setting (choose setting rule) (choose (free setting) rule) := by
  unfold choose
  cases rule.decision with
  | none => exact tracks_pure (0, 0)
  | some decision =>
      apply (tracks_lookAhead decision.depth 0).bind
      intro input
      cases decision.select input with
      | some index => exact tracks_pure _
      | none => exact tracks_get.bind fun _ => tracks_throw nofun

theorem tracks_wantsMore (element : ResolvedElement) (count : Nat) :
    Tracks setting (wantsMore setting element count) (wantsMore (free setting) element count) := by
  have ends (again : Bool) : Tracks setting (recordLoop element.symbol count again)
      (recordLoop element.symbol count again) := by
    cases element.symbol with
    | token id => exact tracks_pure again
    | rule id =>
        exact (tracks_record fun _ _ => .inr ⟨id, count, again, rfl⟩).bind fun _ =>
          tracks_pure again
  unfold wantsMore
  split
  · exact tracks_pure false
  · split
    · exact tracks_pure true
    · cases element.decision with
      | none => exact (tracks_pure false).bind ends
      | some decision =>
          exact (tracks_lookAhead decision.depth 0).bind fun _ => (tracks_pure _).bind ends

/-! ## The listener -/

/-- What a listener refuses is reported, from the state that it was called in. -/
theorem mirrors_abide {origin : Parser σ} (ready : Ready setting.limits before)
    (answer : Except Diagnostic α) (otherwise : α) :
    Mirrors setting origin before (abide setting answer otherwise)
      (abide (free setting) answer otherwise) := by
  cases answer with
  | ok value => exact ready.follows _
  | error refusal => exact (mirrors_report ready origin refusal false).map fun _ => otherwise

theorem mirrors_tell (ready : Ready setting.limits before)
    (call : σ → σ × Except Diagnostic α) (otherwise : α) :
    Mirrors setting before before (tell setting call otherwise)
      (tell (free setting) call otherwise) := by
  have told : Ready setting.limits { before with listener := (call before.listener).1 } :=
    ready.keep rfl (Nat.le_refl _)
  exact mirrors_abide told (call before.listener).2 otherwise

theorem tracks_enter (node : Node) :
    Tracks setting (enter setting node) (enter (free setting) node) where
  acts := actsAs_enter node
  extending := (@actsAs_enter σ (free setting) node).extending
  mirrors := fun _ ready => mirrors_tell ready _ _

theorem tracks_exit (node : Node) :
    Tracks setting (exit setting node) (exit (free setting) node) where
  acts := actsAs_exit node
  extending := (@actsAs_exit σ (free setting) node).extending
  mirrors := fun _ ready => mirrors_tell ready _ _

theorem tracks_attach (parent : Branch) (kept : Option Node) :
    Tracks setting (attach setting parent kept) (attach (free setting) parent kept) := by
  cases kept with
  | none => exact tracks_pure parent
  | some node =>
      refine ⟨actsAs_attach parent _, (@actsAs_attach σ (free setting) parent _).extending, ?_⟩
      intro before ready
      let told := setting.listener.child parent node before.listener
      have still : Ready setting.limits { before with listener := told.1 } :=
        ready.keep rfl (Nat.le_refl _)
      have answers : Mirrors setting before { before with listener := told.1 }
          (abide setting (told.2.2.map fun _ => told.2.1) told.2.1)
          (abide (free setting) (told.2.2.map fun _ => told.2.1) told.2.1) :=
        mirrors_abide still _ _
      unfold Mirrors
      rw [attach_run_eq, attach_run_eq]
      exact answers

/-! ## Fuel -/

/-- Where fuel is missing the run is cut short. -/
theorem cutShort_fail (ready : Ready setting.limits before) {fault : Fault}
    (isLimit : fault.IsLimit) (allowed : (Act.fail fault).Allowed setting.limits before)
    (grows : before.books.Grows full.books) :
    CutShort setting before ((Act.fail fault).apply setting before) full where
  taken := by
    have same : ((Act.fail fault).apply setting before).taken = before.taken :=
      (reported_note _ before.recovery).taken
    rw [same]
    exact grows.events.filterMap _
  fits := ready.fits_note _
  warned := grows.warned ready.warned
  cause := .fuel (.single allowed) isLimit (List.mem_singleton_self _) (log_fail fault) grows.log

/-- A limit on tokens is reached or not. -/
theorem spend_run : (spend setting).run.run before =
    if setting.limits.execution.any (· ≤ before.executed) then
      (.error .abort, (Act.fail .executionLimit).apply setting before)
    else (.ok (), { before with executed := before.executed + 1 }) := by
  change (if setting.limits.execution.any (· ≤ before.executed) then _ else _ : Parse σ Unit).run.run
    before = _
  split
  · rfl
  · rfl

/-- Where a token is counted, fuel may be missing. -/
theorem mirrors_spend (ready : Ready setting.limits before) {next : Parse σ α}
    (extending : Extending (do spend (free setting); next))
    (still : Ensures next { before with executed := before.executed + 1 } fun _ after =>
      Ready setting.limits after) :
    Mirrors setting before before (do spend setting; next) (do spend (free setting); next) := by
  have grows := extending before ready.warned
  unfold Ensures at grows
  unfold Mirrors
  rw [bind_run] at grows
  rw [bind_run, bind_run, spend_run]
  cases exceeded : setting.limits.execution.any (· ≤ before.executed) with
  | true =>
      exact .cut (cutShort_fail ready (.inr rfl) (allowed_executionLimit exceeded) grows)
  | false => exact Ready.follows still _

theorem mirrors_consume (ready : Ready setting.limits before) {token : Token} {rest : List Token}
    (buffered : before.buffer = token :: rest) :
    Mirrors setting before before (consume setting) (consume (free setting)) := by
  apply mirrors_spend ready extending_consume
  simp only [ensures_bind, ensures_get, buffered, ensures_modify, ensures_record, ensures_pure]
  exact ready.keep rfl (Nat.sub_le _ 1)

theorem tracks_token (id : TokenId) (parent : Branch) :
    Tracks setting (token setting id parent) (token (free setting) id parent) where
  acts := actsAs_token id parent
  extending := (@actsAs_token σ (free setting) id parent).extending
  mirrors := by
    intro before ready
    have leaf (node : Node) : Tracks setting
        (do enter setting node; attach setting parent (← exit setting node))
        (do enter (free setting) node; attach (free setting) parent (← exit (free setting) node)) :=
      (tracks_enter node).bind fun _ => (tracks_exit node).bind (tracks_attach parent)
    have looked : Ensures (peek setting 0) before fun outcome middle =>
        (∃ acts, Run setting before acts middle) ∧
          ∀ found, outcome = .ok found → middle.buffer[0]? = found :=
      (((tracks_peek 0).acts before ready.warned).runs.and (ensures_peek 0)).mono
        fun _ _ ⟨acted, _, buffered⟩ => ⟨acted.1, fun found same => (buffered found same).1⟩
    unfold token
    apply mirrors_bind looked ((tracks_peek 0).mirrors before ready)
    · intro found middle still buffered
      cases found with
      | none => exact (tracks_get.bind fun _ => tracks_throw (by simp)).mirrors middle still
      | some next =>
          dsimp only [free]
          split
          · exact (tracks_get.bind fun _ => tracks_throw (by simp)).mirrors middle still
          · obtain ⟨rest, shape⟩ := exists_cons_of_getElem?_zero (buffered _ rfl)
            apply mirrors_bind (acted_consume shape).runs (mirrors_consume still shape)
            · exact fun token last ready _ => (leaf _).mirrors last ready
            · exact fun token => (leaf _).extending
    · rintro (_ | next)
      · exact extending_get.bind fun _ => extending_throw _
      · dsimp only
        split
        · exact extending_get.bind fun _ => extending_throw _
        · exact extending_consume.bind fun token => (leaf _).extending

theorem mirrors_skip (ready : Ready setting.limits before) :
    Mirrors setting before before (skip setting) (skip (free setting)) := by
  apply mirrors_bind ((tracks_peek 0).acts before ready.warned).runs
    ((tracks_peek 0).mirrors before ready)
  · intro found middle still _
    cases found with
    | none => exact still.follows _
    | some token =>
        apply mirrors_spend still (extending_drop token)
        exact still.keep rfl (Nat.le_refl _)
  · rintro (_ | token)
    · exact extending_pure false
    · exact extending_drop token

theorem tracks_recover (diagnostic : Diagnostic) :
    Tracks setting (recover setting diagnostic) (recover (free setting) diagnostic) where
  acts := (actsAs_recover diagnostic).any
  extending := (@actsAs_recover σ (free setting) diagnostic).extending
  mirrors := by
    intro before ready
    have allowed : (Act.mismatch diagnostic).Allowed setting.limits before := trivial
    have stumbled : Ensures (report setting diagnostic true) before fun _ middle =>
        (∃ acts, Run setting before acts middle) ∧ middle.log ≠ [] := by
      apply (ensures_report_eq diagnostic true).mono
      rintro _ middle ⟨_, rfl⟩
      exact ⟨⟨_, .single allowed⟩, log_stumble diagnostic ready.warned⟩
    have ends (skipped : Bool) : Extending (do
        if !skipped then throw .abort
        : Parse σ Unit) := by
      cases skipped with
      | false => exact extending_throw _
      | true => exact extending_pure ()
    unfold recover
    apply mirrors_bind stumbled (mirrors_report ready before diagnostic true)
    · intro _ middle still logged
      apply mirrors_bind (acted_skip still.warned logged).runs (mirrors_skip still) _ ends
      intro skipped last ready _
      cases skipped with
      | false => exact ready.follows _
      | true => exact ready.follows _
    · exact fun _ => extending_skip.bind ends

/-! ## Productions -/

/-- What is done in a production is done between its two events. -/
theorem inside_run (rule : RuleId) (step : Parse σ α) : (inside setting rule step).run.run before =
    if setting.limits.recursion.any (· ≤ before.depth) then
      (.error .abort, (Act.fail .recursionLimit).apply setting before)
    else
      let result := step.run.run ((Act.openRule rule).apply setting before)
      (result.1, (Act.closeRule rule).apply setting result.2) := by
  have ends (outcome : Except Halt α) (last : Parser σ) :
      (leave rule outcome : Parse σ α).run.run last =
        (outcome, (Act.closeRule rule).apply setting last) := by
    cases outcome with
    | ok value => rfl
    | error halt => rfl
  change (if setting.limits.recursion.any (· ≤ before.depth) then _ else _ : Parse σ α).run.run
    before = _
  split
  · rfl
  · exact ends _ _

theorem CutShort.close (rule : RuleId) (short : CutShort setting before after full) :
    CutShort setting before ((Act.closeRule rule).apply setting after)
      ((Act.closeRule rule).apply setting full) where
  taken := by
    have same (parser : Parser σ) :
        ((Act.closeRule rule).apply setting parser).taken = parser.taken := by
      have silent : (TraceEvent.exit rule).taken? = none := rfl
      exact (quiet_record (.exit rule) silent).taken
    rw [same, same]
    exact short.taken
  fits := short.fits
  warned := short.warned
  cause := by
    cases short.cause with
    | fuel run isLimit reported logged first =>
        have allowed : (Act.closeRule rule).Allowed setting.limits after := trivial
        exact .fuel (run.append (.single allowed)) isLimit (List.mem_append_left _ reported)
          logged first
    | errors isLimit isFull first => exact .errors isLimit isFull first

theorem Extending.inside (rule : RuleId) {step : Parse σ α} (extending : Extending step) :
    Extending (inside setting rule step) := by
  intro before warned
  unfold Ensures
  rw [inside_run]
  have opened : before.books.Grows ((Act.openRule rule).apply setting before).books :=
    grows_push (.enter rule) (Nat.le_refl _)
  split
  · rename_i exceeded
    exact (Act.turns (allowed_recursionLimit exceeded)).grows
  · have inner := opened.trans (extending _ (opened.warned warned))
    have allowed (last : Parser σ) : (Act.closeRule rule).Allowed setting.limits last := trivial
    exact inner.trans (Act.turns (allowed _)).grows

theorem tracks_inside (rule : RuleId) {step step' : Parse σ α}
    (inner : Tracks setting step step') :
    Tracks setting (inside setting rule step) (inside (free setting) rule step') where
  acts := actsAs_inside rule trivial trivial trivial inner.acts
  extending := inner.extending.inside rule
  mirrors := by
    intro before ready
    have grows := @Extending.inside σ α (free setting) rule step' inner.extending before ready.warned
    unfold Ensures at grows
    unfold Mirrors
    rw [inside_run]
    split
    · rename_i exceeded
      exact .cut (cutShort_fail ready (.inl rfl) (allowed_recursionLimit exceeded) grows)
    · rename_i spare
      have still : Ready setting.limits ((Act.openRule rule).apply setting before) :=
        ready.keep rfl (Nat.le_refl _)
      have opened : Run setting before [.openRule rule] ((Act.openRule rule).apply setting before) :=
        .single (allowed_openRule rule spare)
      have follows := (inner.mirrors _ still).behind opened
      rw [inside_run, if_neg (by simp [Limits.unlimited])]
      unfold Mirrors at follows
      change Follows setting before (step.run.run ((Act.openRule rule).apply setting before)).1
        ((Act.closeRule rule).apply setting
          (step.run.run ((Act.openRule rule).apply setting before)).2)
        (step'.run.run ((Act.openRule rule).apply setting before)).1
        ((Act.closeRule rule).apply setting
          (step'.run.run ((Act.openRule rule).apply setting before)).2)
      generalize (step.run.run ((Act.openRule rule).apply setting before) :
        Except Halt α × Parser σ) = limited at follows ⊢
      generalize (step'.run.run ((Act.openRule rule).apply setting before) :
        Except Halt α × Parser σ) = whole at follows ⊢
      obtain ⟨outcome, after⟩ := limited
      obtain ⟨other, full⟩ := whole
      cases follows with
      | same fits ready =>
          exact .same fits fun goesOn => (ready goesOn).keep rfl (Nat.le_refl _)
      | cut short => exact .cut (short.close rule)

theorem compatible_tracks :
    Compatible setting .unlimited fun step step' => Tracks setting step step' where
  pure := tracks_pure
  unfinished := tracks_throw nofun
  fail := fun _ inner => tracks_fail inner
  bind := Tracks.bind
  rescue := Tracks.rescue
  inside := fun rule _ _ inner => tracks_inside rule inner
  alternative := fun rule index depth => tracks_record fun _ _ => .inl ⟨rule, index, depth, rfl⟩
  enter := tracks_enter
  exit := tracks_exit
  attach := tracks_attach
  token := tracks_token
  choose := tracks_choose
  wantsMore := tracks_wantsMore
  recover := tracks_recover

end Parser

end StrongLL
