import StrongLL.Proofs.Parser.Chronicle
import StrongLL.Proofs.Parser.Limits
import StrongLL.Proofs.Parser.Mismatch
import StrongLL.Proofs.Parser.Nesting

/-!
# Which errors are suppressed

An error is suppressed if it lies in the text and fewer than three tokens have been consumed
since the latest lexical or syntax error. What the listener refuses does not count as one. An
error of the device or of the parser itself does not either: behind it nothing is reported.
-/

namespace StrongLL

/-- Whether an event tells of an error from which the parse cannot recover. -/
def TraceEvent.isFatal : TraceEvent → Bool
  | .error diagnostic _ => !diagnostic.isRecoverable
  | _ => false

/-- Behind an error from which the parse cannot recover no event tells of errors or tokens. -/
def FatalLast (events : List TraceEvent) : Prop :=
  events.Pairwise fun event other => event.isFatal = true → other.isNotable = false

namespace Parser

variable {σ α β : Type} {setting : Setting σ} {before middle after : Parser σ}

/-! ## What cannot be recovered from ends the parse -/

/-- Some events came about, of which one that is fatal is the last to tell of anything. It has
ended the parse. -/
def Concludes (before : Parser σ) (outcome : Except Halt α) (after : Parser σ) : Prop :=
  ∃ events, after.trace.toList = before.trace.toList ++ events ∧ FatalLast events ∧
    (outcome ≠ .error .abort → ∀ event ∈ events, event.isFatal = false)

/-- A step of which this holds wherever it begins. -/
def IsConclusive (step : Parse σ α) : Prop := ∀ before, Ensures step before (Concludes before)

section

variable {outcome : Except Halt α} {other : Except Halt β}

theorem concludes_same (same : after.trace = before.trace) : Concludes before outcome after :=
  ⟨[], by rw [same, List.append_nil], .nil, fun _ _ never => nomatch never⟩

theorem concludes_event (event : TraceEvent)
    (ends : outcome ≠ .error .abort → event.isFatal = false)
    (pushed : after.trace = before.trace.push event) : Concludes before outcome after := by
  refine ⟨[event], by rw [pushed, Array.toList_push], List.pairwise_singleton _ _, ?_⟩
  intro goesOn found member
  exact List.mem_singleton.mp member ▸ ends goesOn

/-- Steps in a row, of which the first one does not end the parse. -/
theorem Concludes.behind (first : Concludes before outcome middle)
    (goesOn : outcome ≠ .error .abort) (later : Concludes middle other after) :
    Concludes before other after := by
  obtain ⟨events, traced, last, harmless⟩ := first
  obtain ⟨further, moreTraced, moreLast, moreHarmless⟩ := later
  refine ⟨events ++ further, by rw [moreTraced, traced, List.append_assoc], ?_, ?_⟩
  · refine List.pairwise_append.mpr ⟨last, moreLast, fun event member _ _ isFatal => ?_⟩
    rw [harmless goesOn event member] at isFatal
    cases isFatal
  · intro still event member
    rcases List.mem_append.mp member with member | member
    · exact harmless goesOn event member
    · exact moreHarmless still event member

theorem Concludes.become (concludes : Concludes before outcome after)
    (ended : outcome = .error .abort → other = .error .abort) :
    Concludes before other after := by
  obtain ⟨events, traced, last, harmless⟩ := concludes
  exact ⟨events, traced, last, fun goesOn => harmless fun aborted => goesOn (ended aborted)⟩

theorem Concludes.halt {halt : Halt}
    (concludes : Concludes before (.error halt : Except Halt α) after) :
    Concludes before (.error halt : Except Halt β) after :=
  concludes.become fun aborted => congrArg _ (Except.error.inj aborted)

end

theorem Ensures.concludes_bind {step : Parse σ α} {next : α → Parse σ β}
    (first : Ensures step before (Concludes before))
    (more : ∀ value, IsConclusive (next value)) :
    Ensures (step >>= next) before (Concludes before) := by
  apply first.bind
  · intro value middle concludes
    apply (more value middle).mono
    intro outcome after later
    exact concludes.behind (by simp) later
  · exact fun halt after concludes => concludes.halt

theorem IsConclusive.bind {step : Parse σ α} {next : α → Parse σ β} (first : IsConclusive step)
    (more : ∀ value, IsConclusive (next value)) : IsConclusive (step >>= next) :=
  fun before => (first before).concludes_bind more

theorem IsConclusive.rescue {step : Parse σ α} {next : α → Parse σ β}
    {handler : Diagnostic → Parse σ β} (first : IsConclusive step)
    (more : ∀ value, IsConclusive (next value))
    (handled : ∀ diagnostic, IsConclusive (handler diagnostic)) :
    IsConclusive (rescue step next handler) := by
  intro before
  unfold Parser.rescue
  rw [ensures_bind, ensures_attempt]
  apply (first before).mono
  intro outcome middle concludes
  match outcome with
  | .ok value => exact (more value middle).mono fun _ _ later => concludes.behind (by simp) later
  | .error (.mismatch diagnostic) =>
      exact (handled diagnostic middle).mono fun _ _ later => concludes.behind (by simp) later
  | .error .abort | .error .unfinished => exact concludes.halt

theorem conclusive_pure (value : α) : IsConclusive (pure value : Parse σ α) :=
  fun _ => concludes_same rfl

theorem conclusive_throw (halt : Halt) : IsConclusive (throw halt : Parse σ α) :=
  fun _ => concludes_same rfl

theorem conclusive_get : IsConclusive (get : Parse σ (Parser σ)) :=
  fun _ => ensures_get.mpr (concludes_same rfl)

theorem conclusive_record {event : TraceEvent} (harmless : event.isFatal = false) :
    IsConclusive (record event : Parse σ Unit) :=
  fun _ => ensures_record.mpr (concludes_event event (fun _ => harmless) rfl)

theorem conclusive_report (diagnostic : Diagnostic) (recovering : Bool) :
    IsConclusive (report setting diagnostic recovering) := by
  intro before
  apply ((ensures_report_eq diagnostic recovering).and
    (ensures_report_recoverable diagnostic recovering)).mono
  rintro outcome after ⟨⟨ended, rfl⟩, goesOn⟩
  refine concludes_event (.error diagnostic (before.keepsBack diagnostic)) (fun still => ?_) ?_
  · simp [TraceEvent.isFatal, goesOn (ended.resolve_right still)]
  · cases recovering <;> rfl

theorem conclusive_fail (fault : Fault) : IsConclusive (fail fault : Parse σ α) := by
  intro before
  have failed : Concludes before (.error .abort : Except Halt α)
      (before.note (.located (.internal fault) before.position)) :=
    concludes_event _ (fun goesOn => absurd rfl goesOn) rfl
  exact failed

/-! ## Steps between productions -/

theorem concludes_scanned {vocabulary : Vocabulary} {outcome : Except Halt α}
    (ends : outcome ≠ .error .abort → ∀ diagnostic,
      (before.scanner.next vocabulary).2 = .error diagnostic → diagnostic.isRecoverable = true) :
    Concludes before outcome (scanned vocabulary before) := by
  revert ends
  unfold scanned
  match before.scanner.next vocabulary with
  | (scanner, .ok (some token)) => exact fun _ => concludes_same rfl
  | (scanner, .ok none) => exact fun _ => concludes_same rfl
  | (scanner, .error diagnostic) =>
      intro ends
      refine concludes_event (.error diagnostic (before.keepsBack diagnostic)) (fun goesOn => ?_) rfl
      simp [TraceEvent.isFatal, ends goesOn diagnostic rfl]

theorem conclusive_fetch (index fuel : Nat) : IsConclusive (fetch setting index fuel) := by
  induction fuel with
  | zero => exact conclusive_throw .unfinished
  | succ fuel ih =>
      intro before
      by_cases there : index < before.buffer.length ∨ before.exhausted = true
      · exact ensures_fetch_there there (concludes_same rfl)
      · rw [not_or, Bool.not_eq_true] at there
        apply ensures_fetch_step (Nat.le_of_not_lt there.1) there.2
        · intro recoverable
          have scan : Concludes before (.ok () : Except Halt Unit)
              (scanned setting.grammar.vocabulary before) :=
            concludes_scanned fun _ => recoverable
          exact (ih _).mono fun _ _ later => scan.behind (by simp) later
        · exact concludes_scanned fun goesOn => absurd rfl goesOn

theorem conclusive_peek (index : Nat) : IsConclusive (peek setting index) :=
  conclusive_get.bind fun _ => (conclusive_fetch index _).bind fun _ =>
    conclusive_get.bind fun _ => conclusive_pure _

theorem conclusive_lookAhead (depth index : Nat) :
    IsConclusive (lookAhead setting depth index) := by
  induction depth generalizing index with
  | zero => exact conclusive_pure []
  | succ depth ih =>
      unfold lookAhead
      apply (conclusive_peek index).bind
      intro found
      cases found with
      | none => exact conclusive_pure _
      | some token => exact (ih (index + 1)).bind fun _ => conclusive_pure _

theorem conclusive_spend : IsConclusive (spend setting) := by
  intro before
  apply ensures_spend_eq.mono
  rintro outcome after (⟨rfl, rfl, _⟩ | ⟨rfl, rfl, _⟩)
  · exact concludes_same rfl
  · exact concludes_event _ (fun goesOn => absurd rfl goesOn) rfl

theorem conclusive_consume : IsConclusive (consume setting) := by
  unfold consume
  refine conclusive_spend.bind fun _ before => ?_
  rw [ensures_bind, ensures_get]
  dsimp only
  cases before.buffer with
  | nil => exact conclusive_fail .nothingBuffered before
  | cons token rest =>
      simp only [ensures_bind, ensures_modify, ensures_record, ensures_pure]
      exact concludes_event (.consume token) (fun _ => rfl) rfl

theorem conclusive_skip : IsConclusive (skip setting) := by
  unfold skip
  apply (conclusive_peek 0).bind
  intro found
  cases found with
  | none => exact conclusive_pure false
  | some token =>
      refine conclusive_spend.bind fun _ before => ?_
      simp only [ensures_bind, ensures_modify, ensures_record, ensures_pure]
      exact concludes_event (.skip token) (fun _ => rfl) rfl

theorem conclusive_recover (diagnostic : Diagnostic) :
    IsConclusive (recover setting diagnostic) := by
  unfold recover
  refine (conclusive_report diagnostic true).bind fun _ => conclusive_skip.bind fun skipped => ?_
  cases skipped with
  | true => exact conclusive_pure ()
  | false => exact conclusive_throw .abort

theorem conclusive_abide (answer : Except Diagnostic α) (otherwise : α) :
    IsConclusive (abide setting answer otherwise) := by
  cases answer with
  | ok value => exact conclusive_pure value
  | error refusal => exact (conclusive_report refusal false).bind fun _ => conclusive_pure otherwise

theorem conclusive_tell (call : σ → σ × Except Diagnostic α) (otherwise : α) :
    IsConclusive (tell setting call otherwise) := by
  intro before
  unfold Ensures
  rw [tell_run_eq]
  exact conclusive_abide _ otherwise { before with listener := _ }

theorem conclusive_attach (parent : Branch) (kept : Option Node) :
    IsConclusive (attach setting parent kept) := by
  cases kept with
  | none => exact conclusive_pure parent
  | some node =>
      intro before
      unfold Ensures
      rw [attach_run_eq]
      exact conclusive_abide _ _ { before with listener := _ }

theorem conclusive_token (id : TokenId) (parent : Branch) :
    IsConclusive (token setting id parent) := by
  unfold token
  apply (conclusive_peek 0).bind
  intro found
  cases found with
  | none => exact conclusive_get.bind fun _ => conclusive_throw _
  | some next =>
      dsimp only
      split
      · exact conclusive_get.bind fun _ => conclusive_throw _
      · refine conclusive_consume.bind fun token => ?_
        exact (conclusive_tell _ ()).bind fun _ => (conclusive_tell _ none).bind
          (conclusive_attach parent)

theorem conclusive_choose (found : ResolvedRule) : IsConclusive (choose setting found) := by
  unfold choose
  cases found.decision with
  | none => exact conclusive_pure (0, 0)
  | some decision =>
      apply (conclusive_lookAhead decision.depth 0).bind
      intro input
      cases decision.select input with
      | some index => exact conclusive_pure _
      | none => exact conclusive_get.bind fun _ => conclusive_throw _

theorem conclusive_recordLoop (symbol : Symbol) (count : Nat) (again : Bool) :
    IsConclusive (recordLoop symbol count again : Parse σ Bool) := by
  cases symbol with
  | token id => exact conclusive_pure again
  | rule id => exact (conclusive_record rfl).bind fun _ => conclusive_pure again

theorem conclusive_wantsMore (element : ResolvedElement) (count : Nat) :
    IsConclusive (wantsMore setting element count) := by
  have ends := @conclusive_recordLoop σ element.symbol count
  unfold wantsMore
  split
  · exact conclusive_pure false
  · split
    · exact conclusive_pure true
    · cases element.decision with
      | none => exact (conclusive_pure false).bind ends
      | some decision =>
          exact (conclusive_lookAhead decision.depth 0).bind fun _ =>
            (conclusive_pure _).bind ends

theorem IsConclusive.inside (rule : RuleId) {step : Parse σ α} (inner : IsConclusive step) :
    IsConclusive (inside setting rule step) := by
  intro before
  apply ensures_inside_eq
  · exact fun _ => concludes_event _ (fun goesOn => absurd rfl goesOn) rfl
  · intro _
    have opened : Concludes before (.ok () : Except Halt Unit)
        ((Act.openRule rule).apply setting before) :=
      concludes_event (.enter rule) (fun _ => rfl) rfl
    apply (inner _).mono
    intro outcome last concludes
    obtain ⟨events, traced, isLast, harmless⟩ := opened.behind (by simp) concludes
    refine ⟨events ++ [.exit rule], ?_, ?_, fun goesOn event member => ?_⟩
    · simp [Act.apply, traced]
    · refine List.pairwise_append.mpr ⟨isLast, List.pairwise_singleton _ _, ?_⟩
      rintro event _ other member _
      obtain rfl := List.mem_singleton.mp member
      rfl
    · rcases List.mem_append.mp member with member | member
      · exact harmless goesOn event member
      · obtain rfl := List.mem_singleton.mp member
        rfl

theorem compatible_isConclusive :
    Compatible setting setting.limits fun step _ => IsConclusive step where
  pure := conclusive_pure
  unfinished := conclusive_throw .unfinished
  fail := fun fault _ => conclusive_fail fault
  bind := IsConclusive.bind
  rescue := IsConclusive.rescue
  inside := fun rule _ _ inner => inner.inside rule
  alternative := fun _ _ _ => conclusive_record rfl
  enter := fun _ => conclusive_tell _ ()
  exit := fun _ => conclusive_tell _ none
  attach := conclusive_attach
  token := conclusive_token
  choose := conclusive_choose
  wantsMore := conclusive_wantsMore
  recover := conclusive_recover

theorem conclusive_checkEnd : IsConclusive (checkEnd setting) := by
  unfold checkEnd
  apply (conclusive_peek 0).bind
  intro found
  cases found with
  | none => exact conclusive_pure ()
  | some token => exact conclusive_report _ true

/-- In a whole parse nothing is told of behind what cannot be recovered from. -/
theorem concludes_root (steps fuel : Nat) :
    Ensures (root setting steps fuel) before fun _ after =>
      Concludes before (.error .abort : Except Halt Unit) after := by
  induction fuel generalizing before with
  | zero => exact concludes_same rfl
  | succ fuel ih =>
      unfold root
      rw [ensures_bind, ensures_attempt]
      have tried : Ensures (rule setting steps setting.grammar.start) before (Concludes before) :=
        (compatible_isConclusive.relatedAt steps).rule setting.grammar.start before
      apply tried.mono
      intro outcome middle concludes
      cases outcome with
      | ok node =>
          dsimp only
          rw [ensures_bind, ensures_discard]
          apply (conclusive_checkEnd middle).mono
          intro _ after later
          exact concludes.behind (by simp) (later.become fun _ => rfl)
      | error halt =>
          cases halt with
          | mismatch diagnostic =>
              dsimp only
              apply (conclusive_recover diagnostic middle).bind
              · intro _ recovered later
                apply ih.mono
                intro _ after rest
                exact (concludes.behind (by simp) later).behind (by simp) rest
              · intro halt after later
                exact concludes.behind (by simp) (later.become fun _ => rfl)
          | abort | unfinished => exact concludes.become fun _ => rfl

/-! ## The calls among the acts of a parse -/

/-- A parser without the calls that its listener has kept. -/
def unheard (parser : Parser (σ × List Call)) : Parser σ :=
  { parser with listener := parser.listener.1 }

theorem unheard_heed (answer : Except Diagnostic α) (parser : Parser (σ × List Call)) :
    (heed answer parser).unheard = heed answer parser.unheard := by
  cases answer <;> rfl

theorem unheard_scanned (vocabulary : Vocabulary) (parser : Parser (σ × List Call)) :
    (scanned vocabulary parser).unheard = scanned vocabulary parser.unheard := by
  obtain ⟨scanner⟩ := parser
  unfold scanned unheard
  dsimp only
  match scanner.next vocabulary with
  | (after, .ok (some token)) => rfl
  | (after, .ok none) => rfl
  | (after, .error diagnostic) => rfl

theorem unheard_apply (act : Act) (parser : Parser (σ × List Call)) :
    (act.apply setting.recorded parser).unheard = act.apply setting parser.unheard := by
  cases act with
  | scan => exact unheard_scanned _ parser
  | enter node => exact unheard_heed _ _
  | exit node => exact unheard_heed _ _
  | child parent node => exact unheard_heed _ _
  | mismatch diagnostic => rfl
  | fail fault => rfl
  | consume token => rfl
  | skip token => rfl
  | openRule rule => rfl
  | closeRule rule => rfl
  | decide event => rfl

/-- Without the calls that are kept the acts are the same. -/
theorem Run.unheard {start last : Parser (σ × List Call)} {acts : List Act}
    (run : Run setting.recorded start acts last) :
    Run setting start.unheard acts last.unheard := by
  induction run with
  | done parser => exact .done _
  | @act start _ act _ allowed _ ih =>
      have allowed : act.Allowed setting.limits start.unheard := by
        cases act <;> exact allowed
      rw [unheard_apply] at ih
      exact .act allowed ih

theorem Alike.unheard_eq {left : Parser (σ × List Call)} {right : Parser σ}
    (alike : Alike (recording σ) left right) : left.unheard = right := by
  obtain ⟨scanner, buffer, exhausted, listener, log, recovery, depth, executed, trace⟩ := alike
  cases left
  cases right
  exact (Parser.mk.injEq ..).mpr
    ⟨scanner, buffer, exhausted, listener, log, recovery, depth, executed, trace⟩

/-- A parse is a row of acts whose calls are those that its listener gets. -/
theorem acted_calls (setting : Setting σ) (parser : Parser σ) :
    ∃ acts, Run setting parser.prepare acts ((root setting
        (parser.prepare.stepBound setting.grammar)
        (parser.prepare.tokenBound + 2)).run.run parser.prepare).2 ∧
      callsOf acts = calls setting parser := by
  obtain ⟨acts, run, _⟩ := @acted_root _ setting.recorded parser.recorded.prepare
    (parser.prepare.stepBound setting.grammar) (parser.prepare.tokenBound + 2)
    (warned_prepare parser.recorded)
  have start : Alike (recording σ) parser.recorded.prepare parser.prepare :=
    ⟨rfl, rfl, rfl, rfl, rfl, rfl, rfl, rfl, rfl⟩
  have alike := (inStep_root (parsesAlike_recording setting)
    (parser.prepare.stepBound setting.grammar) (parser.prepare.tokenBound + 2) _ _ start).2
  have last : (parse setting.recorded parser.recorded).1 =
      { ((root setting.recorded (parser.prepare.stepBound setting.grammar)
        (parser.prepare.tokenBound + 2)).run.run parser.recorded.prepare).2 with log := [] } :=
    fst_verdict _
  refine ⟨acts, ?_, ?_⟩
  · rw [← alike.unheard_eq]
    exact run.unheard
  · unfold calls
    rw [last]
    have heard := congrArg Prod.snd (run.listener_eq.trans (heard_recorded _ _ _))
    exact (heard.trans (List.nil_append _)).symm

end Parser

/-! ## Errors from which the parse recovers -/

theorem Diagnostic.isExternal_of_isRecoverable {diagnostic : Diagnostic}
    (recoverable : diagnostic.isRecoverable = true) : diagnostic.problem.isExternal = false := by
  obtain ⟨problem, position⟩ := diagnostic
  cases problem <;> first | rfl | cases recoverable

/-- As long as nothing is fatal the errors in the input are the lexical and syntax errors. -/
theorem Moment.opens_iff {moment : Moment} (harmless : moment.event.isFatal = false) :
    moment.Opens ↔ moment.isFromInput = true := by
  cases moment with
  | reported origin diagnostic suppressed =>
      have recoverable : diagnostic.isRecoverable = true := by
        simpa [event, TraceEvent.isFatal] using harmless
      have inText := diagnostic.isExternal_of_isRecoverable recoverable
      cases origin <;> simp [Opens, isFromInput, inText]
  | consumed token => simp [Opens, isFromInput]
  | skipped token => simp [Opens, isFromInput]

/-- What is told of in the end is all that may be fatal. -/
theorem FatalLast.harmless {events : List TraceEvent} {moments earlier later : List Moment}
    {moment : Moment} (last : FatalLast events)
    (told : events.filter (·.isNotable) = moments.map Moment.event)
    (split : moments = earlier ++ moment :: later) :
    (∀ other ∈ earlier, other.event.isFatal = false) ∧
      (moment.event.isFatal = true → later = []) := by
  have pairs : moments.Pairwise fun moment _ => moment.event.isFatal = false := by
    have inOrder := last.sublist (List.filter_sublist (p := (·.isNotable)))
    rw [told, List.pairwise_map] at inOrder
    refine inOrder.imp fun {first second} silent => Bool.eq_false_iff.mpr fun isFatal => ?_
    have never := silent isFatal
    rw [second.isNotable_event] at never
    cases never
  rw [split, List.pairwise_append, List.pairwise_cons] at pairs
  obtain ⟨_, ⟨behind, _⟩, across⟩ := pairs
  refine ⟨fun other member => across other member moment (List.mem_cons_self ..), fun isFatal => ?_⟩
  match later with
  | [] => rfl
  | next :: _ =>
      have never := behind next (List.mem_cons_self ..)
      rw [isFatal] at never
      cases never

namespace Parser

variable {σ : Type}

/-- Along a run in which what is fatal comes last, an error is suppressed exactly if it lies in
the text and fewer than three tokens were consumed since the latest lexical or syntax error. -/
theorem Chronicled.suppressed_iff {before after : Parser σ} {moments earlier later : List Moment}
    {origin : Origin} {diagnostic : Diagnostic} {suppressed : Bool}
    (chronicled : Chronicled before moments after) (fresh : before.recovery = 0)
    (split : moments = earlier ++ .reported origin diagnostic suppressed :: later)
    (harmless : ∀ other ∈ earlier, other.event.isFatal = false) :
    suppressed = true ↔ diagnostic.problem.isExternal = false ∧
      ∃ first opening recent, earlier = first ++ opening :: recent ∧ opening.Opens ∧
        (∀ moment ∈ recent, ¬ moment.Opens) ∧ recent.countP Moment.isConsumed < 3 := by
  rw [chronicled.suppressed _ _ _ _ _ split, fresh, Bool.and_eq_true, Bool.not_eq_true',
    decide_eq_true_eq, window_pos_iff, and_comm]
  refine and_congr_right fun _ => exists_congr fun first => exists_congr fun opening =>
    exists_congr fun recent => and_congr_right fun parted => ?_
  have opens {moment : Moment} (member : moment ∈ opening :: recent) :
      moment.Opens ↔ moment.isFromInput = true :=
    Moment.opens_iff (harmless moment (parted ▸ List.mem_append_right first member))
  rw [opens (List.mem_cons_self ..)]
  refine and_congr_right fun _ => and_congr_left fun _ => forall_congr' fun moment =>
    forall_congr' fun member => ?_
  rw [opens (List.mem_cons_of_mem _ member), Bool.not_eq_true]

/-- In every parse the errors that are reported and the tokens that are taken stand in a
chronicle, of which the trace tells and whose calls are those of the listener. An error is
suppressed exactly if it lies in the text and fewer than three tokens were consumed since the
latest lexical or syntax error, which may have been suppressed itself; tokens that are skipped
do not count. The log lists the other errors in the order found. Behind an error from which the
parse cannot recover nothing is told of. -/
theorem parse_suppresses {declaration : Ebnf.Declaration} {grammar : Grammar}
    (built : Grammar.build declaration = .ok grammar) {setting : Setting σ}
    (same : setting.grammar = grammar) (parser : Parser σ) :
    ∃ acts last, Run setting parser.prepare acts last ∧
      (parse setting parser).1 = { last with log := [] } ∧ callsOf acts = calls setting parser ∧
      let moments := chronicle setting parser.prepare acts
      (parse setting parser).2.log = moments.filterMap Moment.logged? ∧
      (∃ events, (parse setting parser).1.trace.toList = parser.trace.toList ++ events ∧
        events.filter (·.isNotable) = moments.map Moment.event) ∧
      ∀ earlier origin diagnostic suppressed later,
        moments = earlier ++ .reported origin diagnostic suppressed :: later →
          (suppressed = true ↔ diagnostic.problem.isExternal = false ∧
            ∃ first opening recent, earlier = first ++ opening :: recent ∧ opening.Opens ∧
              (∀ moment ∈ recent, ¬ moment.Opens) ∧ recent.countP Moment.isConsumed < 3) ∧
          (diagnostic.isRecoverable = false → later = []) := by
  have from' := Grammar.builtFrom_of_build built
  have finished := parse_ne_unfinished from' same parser
  have whole : parse setting parser = verdict ((root setting
    (parser.prepare.stepBound setting.grammar) (parser.prepare.tokenBound + 2)).run.run
      parser.prepare) := rfl
  have concludes : Ensures (root setting (parser.prepare.stepBound setting.grammar)
    (parser.prepare.tokenBound + 2)) parser.prepare _ := concludes_root _ _
  obtain ⟨acts, run, heard⟩ := acted_calls setting parser
  unfold Ensures at concludes
  rw [whole] at finished ⊢
  generalize (root setting _ _).run.run parser.prepare = result at run concludes finished ⊢
  obtain ⟨events, traced, last, _⟩ := concludes
  have chronicled := run.chronicled
  have told : events.filter (·.isNotable) =
      (chronicle setting parser.prepare acts).map Moment.event := by
    have both := chronicled.events
    unfold notable at both
    rw [traced, List.filter_append] at both
    exact List.append_cancel_left both
  refine ⟨acts, result.2, run, fst_verdict result, heard, ?_, ⟨events, ?_, told⟩, ?_⟩
  · rw [log_verdict finished, chronicled.log]
    exact List.nil_append _
  · rw [fst_verdict]
    exact traced
  · intro earlier origin diagnostic suppressed later split
    obtain ⟨harmless, ends⟩ := last.harmless told split
    refine ⟨chronicled.suppressed_iff rfl split harmless, fun fatal => ends ?_⟩
    simp [Moment.event, TraceEvent.isFatal, fatal]

/-- In `"?aa?a?b"`, which is read as `"a"{2,3} "b"`, only the first of three errors is logged.
Two tokens are consumed between it and the second one, which is suppressed. Between the first
one and the third one there are three, but only one of them is behind the second one. -/
theorem countedTokens_suppressed : ∃ grammar acts last,
    Grammar.build Grammar.countedTokens = .ok grammar ∧
    let setting : Setting Unit := { grammar, listener := treeBuilder }
    let fresh : Parser Unit := .ofSource (.ofString "?aa?a?b") ()
    let place (index : Nat) : Position := ⟨1, index + 1, index⟩
    let stray (index : Nat) : Diagnostic := .located (.unexpectedChar '?') (place index)
    Run setting fresh.prepare acts last ∧ callsOf acts = calls setting fresh ∧
      (chronicle setting fresh.prepare acts).map Moment.event =
        [.error (stray 0) false, .consume ⟨0, "a", place 1⟩, .consume ⟨0, "a", place 2⟩,
          .error (stray 3) true, .consume ⟨0, "a", place 4⟩, .error (stray 5) true,
          .consume ⟨1, "b", place 6⟩] ∧
      (parse setting fresh).2.log = [stray 0] := by
  have facts : ((Grammar.build Grammar.countedTokens).toOption.any fun grammar =>
      let fresh : Parser Unit := .ofSource (.ofString "?aa?a?b") ()
      let parsed := parse { grammar, listener := treeBuilder } fresh
      let place (index : Nat) : Position := ⟨1, index + 1, index⟩
      let stray (index : Nat) : Diagnostic := .located (.unexpectedChar '?') (place index)
      decide (parsed.1.trace.toList.filter (·.isNotable) =
        [.error (stray 0) false, .consume ⟨0, "a", place 1⟩, .consume ⟨0, "a", place 2⟩,
          .error (stray 3) true, .consume ⟨0, "a", place 4⟩, .error (stray 5) true,
          .consume ⟨1, "b", place 6⟩] ∧ parsed.2.log = [stray 0])) = true := by
    decide +kernel
  obtain ⟨grammar, built, facts⟩ := exists_ok_of_any facts
  obtain ⟨traced, logged⟩ := of_decide_eq_true facts
  obtain ⟨acts, last, run, _, heard, _, ⟨events, whole, told⟩, _⟩ :=
    @parse_suppresses Unit _ _ built { grammar, listener := treeBuilder } rfl
      (.ofSource (.ofString "?aa?a?b") ())
  refine ⟨grammar, acts, last, built, run, heard, ?_, logged⟩
  rw [whole] at traced
  exact told.symm.trans traced

end Parser

end StrongLL
